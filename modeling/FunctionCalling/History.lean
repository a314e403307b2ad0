/-
  Conversations.

  A history is the list of messages so far, oldest first, and is written as such a list.  The
  calls that a model asked for are part of the messages; `toolCalls` puts them in one list and
  `callCounts` counts them by the name the model used.
-/
import FunctionCalling.Tool

namespace FunctionCalling

open FunctionCalling.Json (Shape)

/-- Who a message is from. -/
inductive Role where
  | system
  | user
  | assistant
  | tool
deriving DecidableEq, Repr

/-- A message; it holds a text, calls of tools, or the result of the call of an id. -/
structure Message where
  role : Role
  content : Option String
  toolCalls : Option (List ToolCall)
  toolCallId : Option String
deriving DecidableEq, Repr

/-- A conversation, oldest message first. -/
abbrev History :=
  List Message

/-! ## Messages -/

/-- The word for a role. -/
def Role.word : Role → String
  | system => "system"
  | user => "user"
  | assistant => "assistant"
  | tool => "tool"

namespace Message

/-- A message that is a text. -/
def ofText (role : Role) (text : String) : Message :=
  ⟨role, some text, none, none⟩

/-- A model's message that asks for calls. -/
def ofToolCalls (calls : List ToolCall) : Message :=
  ⟨.assistant, none, some calls, none⟩

/-- The result of the call of an id. -/
def ofResult (callId text : String) : Message :=
  ⟨.tool, some text, none, some callId⟩

/-- The calls that a message asks for. -/
def calls (m : Message) : List ToolCall :=
  m.toolCalls.getD []

end Message

/-! ## Counting -/

/-- One more for a key among counts in the order of first occurrence. -/
def increment {α : Type} [DecidableEq α] (key : α) : List (α × Nat) → List (α × Nat)
  | [] => [(key, 1)]
  | (k, n) :: rest => if k = key then (k, n + 1) :: rest else (k, n) :: increment key rest

/-- How often each key occurs in a list, in the order of first occurrence. -/
def tally {α : Type} [DecidableEq α] (keys : List α) : List (α × Nat) :=
  keys.foldl (fun counts key => increment key counts) []

/-- One more changes the count of the key and no other. -/
theorem lookup_increment {α : Type} [DecidableEq α] [BEq α] [LawfulBEq α] (key k : α)
    (counts : List (α × Nat)) :
    ((increment key counts).lookup k).getD 0 =
      (counts.lookup k).getD 0 + if key = k then 1 else 0 := by
  induction counts with
  | nil =>
    by_cases h : key = k
    · subst h
      simp [increment]
    · have hb : (k == key) = false := beq_false_of_ne (Ne.symm h)
      simp [increment, List.lookup_cons, hb, h]
  | cons entry rest ih =>
    obtain ⟨key', n⟩ := entry
    by_cases hk : key' = key
    · subst hk
      by_cases h : key' = k
      · subst h
        simp [increment]
      · have hb : (k == key') = false := beq_false_of_ne (Ne.symm h)
        simp [increment, List.lookup_cons, hb, h]
    · rw [increment, if_neg hk]
      cases hb : k == key' with
      | true =>
        have hk' : key ≠ k := fun e => hk ((beq_iff_eq.1 hb).symm.trans e.symm)
        simp [List.lookup_cons, hb, hk']
      | false => simpa [List.lookup_cons, hb] using ih

/-- A tally counts. -/
theorem lookup_tally {α : Type} [DecidableEq α] [BEq α] [LawfulBEq α] (keys : List α) (k : α) :
    ((tally keys).lookup k).getD 0 = keys.count k := by
  have run : ∀ (keys : List α) (counts : List (α × Nat)),
      ((keys.foldl (fun counts key => increment key counts) counts).lookup k).getD 0 =
        (counts.lookup k).getD 0 + keys.count k := by
    intro keys
    induction keys with
    | nil => simp
    | cons key rest ih =>
      intro counts
      rw [List.foldl_cons, ih, lookup_increment, List.count_cons]
      by_cases h : key = k
      · simp only [h, if_true, beq_self_eq_true]
        omega
      · simp [h]
  simpa [tally] using run keys []

/-- A tally is empty when there is nothing to count. -/
theorem tally_eq_nil_iff {α : Type} [DecidableEq α] {keys : List α} :
    tally keys = [] ↔ keys = [] := by
  constructor
  · intro h
    refine List.eq_nil_iff_forall_not_mem.2 ?_
    intro k
    have hcount := lookup_tally keys k
    rw [h] at hcount
    exact List.count_eq_zero.1 hcount.symm
  · rintro rfl
    rfl

namespace History

/-- All calls asked for so far, oldest first. -/
def toolCalls (h : History) : List ToolCall :=
  h.flatMap Message.calls

/-- How often each name was called, by the name the model used. -/
def callCounts (h : History) : List (String × Nat) :=
  tally (h.toolCalls.map fun call => call.function.name)

theorem toolCalls_append (h more : History) :
    toolCalls (h ++ more) = toolCalls h ++ toolCalls more :=
  List.flatMap_append

end History

/-! ## How they are written -/

/-- The role of a message, as a word. -/
def Role.shape : Shape Role :=
  .choice [.system, .user, .assistant, .tool] Role.word

/-- A message; what it does not hold is left out. -/
def Message.shape : Shape Message :=
  .record "Message" .ignoreUnknown
    (.required "role" Role.shape <|
      .whenSome "content" .text <|
      .whenSome "tool_calls" (.list ToolCall.shape) <|
      .whenSome "tool_call_id" .text <|
      .done)
    (fun (role, content, toolCalls, toolCallId, ()) => ⟨role, content, toolCalls, toolCallId⟩)
    (fun m => (m.role, m.content, m.toolCalls, m.toolCallId, ()))

/-- A history, as the list of its messages. -/
def History.shape : Shape History :=
  .list Message.shape

example : tally ["a", "b", "a"] = [("a", 2), ("b", 1)] := by decide

end FunctionCalling
