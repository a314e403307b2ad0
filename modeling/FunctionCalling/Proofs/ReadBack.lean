/-
  What is kept in files and sent to models is read back as it was written.

  There are eleven formats (`Format`): the three that make up a manifest, the settings of a request
  and the three that they consist of, messages, conversations, calls, and the tools that are offered.
  Every value of each of them is read back from what is written for it, and from the same with the
  members in any other order (`Shape.RoundTrips`).  So a format tells apart whatever is different
  (`Shape.TellsApart`), in particular what is there and empty from what is not there: "no functions"
  from "all functions", an empty plugin name from none, parameters that are `null` from parameters
  that are not given.

  All of this follows from one property of the shapes (`Shape.Faithful`), which the shape of a
  record has because each of its fields has it.
-/
import FunctionCalling.Proofs.Forms
import FunctionCalling.Settings

namespace FunctionCalling

open FunctionCalling.Choice (Mode)
open FunctionCalling.Json (Shape)
open FunctionCalling.Json.Fields
open FunctionCalling.Json.Shape (faithful_choice neverNull_text neverNull_list neverNull_record)

/-! ## Round trips -/

namespace Json.Shape

variable {α : Type} {shape : Shape α}

/-- Whether no JSON value is a form of both of two values. -/
def TellsApart (shape : Shape α) (a b : α) : Prop :=
  ∀ j, shape.Writes a j → ¬ shape.Writes b j

/-- What is written can be read back. -/
structure RoundTrips (shape : Shape α) : Prop where
  /-- Every value is read back from what is written for it. -/
  decode_encode : ∀ a, shape.decode (shape.encode a) = .ok a
  /-- What is written is one of the forms of a value. -/
  writes_encode : ∀ a, shape.Writes a (shape.encode a)
  /-- Every value is read back from each of its forms. -/
  decode_of_writes : ∀ a j, shape.Writes a j → shape.decode j = .ok a
  /-- Different values have no form in common. -/
  tellsApart : ∀ a b, a ≠ b → shape.TellsApart a b

/-- **A faithful shape makes round trips.** -/
theorem roundTrips_of_faithful (hfaithful : shape.Faithful) : shape.RoundTrips := by
  have hread : ∀ a j, shape.Writes a j → shape.decode j = .ok a :=
    fun _ _ h => shape.decode_of_writes hfaithful h
  refine ⟨fun a => hread a _ (shape.writes_encode a), shape.writes_encode, hread, ?_⟩
  intro a b hne j ha hb
  have hsame : Except.ok a = (.ok b : Except Misfit α) := (hread a j ha).symm.trans (hread b j hb)
  exact hne (Except.ok.inj hsame)

end Json.Shape

/-! ## Tools, messages and conversations -/

theorem ToolKind.faithful_shape : ToolKind.shape.Faithful := by
  refine faithful_choice ?_ (by decide)
  intro kind
  cases kind
  decide

theorem FunctionDefinition.faithful_shape : FunctionDefinition.shape.Faithful := by
  refine ⟨?_, by decide, fun _ => rfl⟩
  exact faithful_required trivial <| faithful_required trivial <| faithful_required trivial trivial

theorem ToolDefinition.faithful_shape : ToolDefinition.shape.Faithful := by
  refine ⟨?_, by decide, fun _ => rfl⟩
  exact faithful_required ToolKind.faithful_shape <|
    faithful_required FunctionDefinition.faithful_shape trivial

theorem CalledFunction.faithful_shape : CalledFunction.shape.Faithful := by
  refine ⟨?_, by decide, fun _ => rfl⟩
  exact faithful_required trivial <| faithful_required trivial trivial

theorem ToolCall.faithful_shape : ToolCall.shape.Faithful := by
  refine ⟨?_, by decide, fun _ => rfl⟩
  exact faithful_required trivial <| faithful_required ToolKind.faithful_shape <|
    faithful_required CalledFunction.faithful_shape trivial

theorem Role.faithful_shape : Role.shape.Faithful := by
  refine faithful_choice ?_ (by decide)
  intro role
  cases role <;> decide

theorem Message.faithful_shape : Message.shape.Faithful := by
  refine ⟨?_, by decide, fun _ => rfl⟩
  exact faithful_required Role.faithful_shape <| faithful_whenSome trivial neverNull_text <|
    faithful_whenSome ToolCall.faithful_shape (neverNull_list _) <|
    faithful_whenSome trivial neverNull_text trivial

/-! ## Manifests -/

theorem Metadata.faithful_shape : Metadata.shape.Faithful := by
  refine ⟨?_, by decide, fun _ => rfl⟩
  exact faithful_whenSome trivial neverNull_text <| faithful_required trivial <|
    faithful_withDefault _ trivial <| faithful_withDefault _ trivial trivial

theorem PluginEntry.faithful_shape : PluginEntry.shape.Faithful := by
  refine ⟨?_, by decide, fun _ => rfl⟩
  exact faithful_required trivial <| faithful_withDefault _ trivial <|
    faithful_withDefault _ Metadata.faithful_shape trivial

theorem Manifest.faithful_shape : Manifest.shape.Faithful := by
  refine ⟨?_, by decide, fun _ => rfl⟩
  exact faithful_withDefault _ PluginEntry.faithful_shape trivial

/-! ## Settings -/

theorem Choice.Mode.faithful_shape : Mode.shape.Faithful := by
  refine faithful_choice ?_ (by decide)
  intro mode
  cases mode <;> decide

theorem BehaviorSettings.faithful_shape : BehaviorSettings.shape.Faithful := by
  refine ⟨?_, by decide, fun _ => rfl⟩
  exact faithful_required Mode.faithful_shape <| faithful_whenSome trivial (neverNull_list _) <|
    faithful_withDefault _ trivial <| faithful_withDefault _ trivial trivial

theorem PolicySettings.faithful_shape : PolicySettings.shape.Faithful := by
  refine ⟨?_, by decide, fun _ => rfl⟩
  exact faithful_withDefault _ trivial <| faithful_withDefault _ trivial <|
    faithful_whenAny trivial trivial

theorem InvocationSettings.faithful_shape : InvocationSettings.shape.Faithful := by
  refine ⟨?_, by decide, fun _ => rfl⟩
  exact faithful_withDefault _ trivial <| faithful_withDefault _ trivial <|
    faithful_withDefault _ trivial <| faithful_withDefault _ trivial trivial

theorem ExecutionSettings.faithful_shape : ExecutionSettings.shape.Faithful := by
  refine ⟨?_, by decide, fun _ => rfl⟩
  exact faithful_whenSome BehaviorSettings.faithful_shape (neverNull_record _ _ _ _ _) <|
    faithful_withDefault _ PolicySettings.faithful_shape <|
    faithful_withDefault _ InvocationSettings.faithful_shape trivial

/-! ## The formats -/

/-- What is kept in files and sent to models. -/
inductive Format where
  | metadata
  | pluginEntry
  | manifest
  | settings
  | behavior
  | policy
  | invocation
  | message
  | history
  | toolCall
  | toolDefinition
deriving DecidableEq, Repr

namespace Format

/-- The values that a format is for. -/
abbrev Value : Format → Type
  | metadata => Metadata
  | pluginEntry => PluginEntry
  | manifest => Manifest
  | settings => ExecutionSettings
  | behavior => BehaviorSettings
  | policy => PolicySettings
  | invocation => InvocationSettings
  | message => Message
  | history => History
  | toolCall => ToolCall
  | toolDefinition => ToolDefinition

/-- How they are written. -/
def shape : (format : Format) → Shape format.Value
  | metadata => Metadata.shape
  | pluginEntry => PluginEntry.shape
  | manifest => Manifest.shape
  | settings => ExecutionSettings.shape
  | behavior => BehaviorSettings.shape
  | policy => PolicySettings.shape
  | invocation => InvocationSettings.shape
  | message => Message.shape
  | history => History.shape
  | toolCall => ToolCall.shape
  | toolDefinition => ToolDefinition.shape

/-- **Every format is faithful.** -/
theorem faithful_shape : (format : Format) → format.shape.Faithful
  | metadata => Metadata.faithful_shape
  | pluginEntry => PluginEntry.faithful_shape
  | manifest => Manifest.faithful_shape
  | settings => ExecutionSettings.faithful_shape
  | behavior => BehaviorSettings.faithful_shape
  | policy => PolicySettings.faithful_shape
  | invocation => InvocationSettings.faithful_shape
  | message => Message.faithful_shape
  | history => Message.faithful_shape
  | toolCall => ToolCall.faithful_shape
  | toolDefinition => ToolDefinition.faithful_shape

theorem roundTrips_shape (format : Format) : format.shape.RoundTrips :=
  Shape.roundTrips_of_faithful format.faithful_shape

/-- Values that differ in some respect have no form in common. -/
theorem tellsApart_of_ne {α : Type} (format : Format) {v w : format.Value}
    (respect : format.Value → α) (hne : respect v ≠ respect w) : format.shape.TellsApart v w :=
  format.roundTrips_shape.tellsApart v w (ne_of_apply_ne respect hne)

/-- What is read from a form of a value means what the value means. -/
theorem map_decode_of_writes {α : Type} (format : Format) {v : format.Value} {j : Json}
    (h : format.shape.Writes v j) (meaning : format.Value → α) :
    (format.shape.decode j).map meaning = .ok (meaning v) := by
  rw [format.roundTrips_shape.decode_of_writes v j h]
  rfl

end Format

/-- **Every format is read back as it was written.**  It is also read again as it was read; nothing
    at all is told apart from something empty, and `null` from other parameters; and settings that
    are read back stand for the same policy, the same limits and the same behavior. -/
theorem reads_back_what_it_writes :
    (∀ format : Format, format.shape.RoundTrips) ∧
      (∀ (format : Format) (j : Json) (v : format.Value), format.shape.decode j = .ok v →
        format.shape.decode (format.shape.encode v) = .ok v) ∧
      (∀ s t : BehaviorSettings, s.functions = none → t.functions = some [] →
        BehaviorSettings.shape.TellsApart s t) ∧
      (∀ m n : Message, m.toolCalls = none → n.toolCalls = some [] →
        Message.shape.TellsApart m n) ∧
      (∀ m n : Metadata, m.pluginName = none → n.pluginName = some "" →
        Metadata.shape.TellsApart m n) ∧
      (∀ m n : Metadata, m.parameters = .null → n.parameters ≠ .null →
        Metadata.shape.TellsApart m n) ∧
      (∀ d e : ToolDefinition, d.function.parameters = .null → e.function.parameters ≠ .null →
        ToolDefinition.shape.TellsApart d e) ∧
      (∀ (s : PolicySettings) (j : Json), PolicySettings.shape.Writes s j →
        (PolicySettings.shape.decode j).map PolicySettings.toPolicy = .ok s.toPolicy) ∧
      (∀ (s : InvocationSettings) (j : Json), InvocationSettings.shape.Writes s j →
        (InvocationSettings.shape.decode j).map InvocationSettings.toLimits = .ok s.toLimits) ∧
      (∀ (s : BehaviorSettings) (j : Json) (registry : Option Registry),
        BehaviorSettings.shape.Writes s j →
        (BehaviorSettings.shape.decode j).map (·.toBehavior registry) =
          .ok (s.toBehavior registry)) := by
  refine ⟨Format.roundTrips_shape, ?again, ?functions, ?toolCalls, ?pluginName, ?parameters,
    ?offered, ?policy, ?invocation, ?behavior⟩
  case again => exact fun format _ v _ => format.roundTrips_shape.decode_encode v
  case functions =>
    intro s t hs ht
    exact Format.tellsApart_of_ne .behavior BehaviorSettings.functions (by rw [hs, ht]; exact nofun)
  case toolCalls =>
    intro m n hm hn
    exact Format.tellsApart_of_ne .message Message.toolCalls (by rw [hm, hn]; exact nofun)
  case pluginName =>
    intro m n hm hn
    exact Format.tellsApart_of_ne .metadata Metadata.pluginName (by rw [hm, hn]; exact nofun)
  case parameters =>
    intro m n hm hn
    exact Format.tellsApart_of_ne .metadata Metadata.parameters (by rw [hm]; exact hn.symm)
  case offered =>
    intro d e hd he
    exact Format.tellsApart_of_ne .toolDefinition (fun d => d.function.parameters)
      (by rw [hd]; exact he.symm)
  case policy => exact fun s j h => Format.map_decode_of_writes .policy h _
  case invocation => exact fun s j h => Format.map_decode_of_writes .invocation h _
  case behavior => exact fun s j registry h => Format.map_decode_of_writes .behavior h _

/-- Settings that offer no function, with their members rearranged, next to settings that leave the
    choice open; and parameters that are absent next to parameters that are `null`. -/
theorem reads_back_what_it_writes_nothing_offered :
    BehaviorSettings.shape.decode (.object [("functions", .list []), ("auto_invoke", .bool true),
        ("allow_any_requested_function", .bool false), ("type", .text "required")]) =
        .ok ⟨.required, some [], true, false⟩ ∧
      BehaviorSettings.shape.TellsApart ⟨.required, none, true, false⟩
        ⟨.required, some [], true, false⟩ ∧
      Metadata.shape.decode (.object [("name", .text "Now")]) =
        .ok ⟨none, "Now", "", Metadata.anyObject⟩ ∧
      Metadata.shape.decode (.object [("parameters", .null), ("name", .text "Now")]) =
        .ok ⟨none, "Now", "", .null⟩ := by
  obtain ⟨hround, -, hfunctions, -⟩ := reads_back_what_it_writes
  refine ⟨?_, hfunctions _ _ rfl rfl, rfl, rfl⟩
  refine (hround .behavior).decode_of_writes _ _ ⟨_, _, rfl, ?_, writes_encode _ _⟩
  decide

end FunctionCalling
