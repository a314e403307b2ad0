/-
  What is known about a function without running it.

  A function is identified by the name of its plugin and its own name, both compared without
  regard to ASCII case.  An empty plugin name and an absent one mean the same, "no plugin"
  (`Metadata.plugin`), although the two are written differently.
-/
import FunctionCalling.Json.Shape
import FunctionCalling.Text.Ascii

namespace FunctionCalling

open FunctionCalling.Text

/-- The description of a function: who owns it, what it is called, what it does and what its
    arguments look like. -/
structure Metadata where
  pluginName : Option String
  name : String
  description : String
  /-- A JSON schema for the arguments. -/
  parameters : Json
deriving DecidableEq, Repr

namespace Metadata

/-- A plugin name that says something: an empty one counts as none. -/
def namedPlugin : Option String → Option String
  | some "" => none
  | plugin => plugin

/-- The plugin, when there is one. -/
def plugin (m : Metadata) : Option String :=
  namedPlugin m.pluginName

/-- The same function as a member of a plugin. -/
def inPlugin (m : Metadata) (plugin : String) : Metadata :=
  { m with pluginName := some plugin }

/-- A plugin and a name joined by a dot, or the name alone when there is no plugin. -/
def qualify (plugin : Option String) (name : String) : String :=
  match namedPlugin plugin with
  | some p => p ++ "." ++ name
  | none => name

/-- The name under which people know the function. -/
def qualifiedName (m : Metadata) : String :=
  qualify m.pluginName m.name

/-- Whether a plugin name, possibly absent or empty, and a function name identify this
    function. -/
def is (m : Metadata) (plugin : Option String) (name : String) : Bool :=
  (match m.plugin, namedPlugin plugin with
    | some a, some b => sameName a b
    | none, none => true
    | _, _ => false) && sameName m.name name

/-- The schema of a function that says nothing about its arguments: any object. -/
def anyObject : Json :=
  .object [("properties", .object []), ("type", .text "object")]

/-- How metadata is written: the plugin name only when it is there.  A missing description is
    empty and missing parameters are any object. -/
def shape : Json.Shape Metadata :=
  .record "FunctionMetadata" .ignoreUnknown
    (.whenSome "plugin_name" .text <|
      .required "name" .text <|
      .withDefault "description" .text "" <|
      .withDefault "parameters" .any anyObject <|
      .done)
    (fun (pluginName, name, description, parameters, ()) =>
      ⟨pluginName, name, description, parameters⟩)
    (fun m => (m.pluginName, m.name, m.description, m.parameters, ()))

@[simp] theorem namedPlugin_none : namedPlugin none = none := rfl

/-- A plugin name says something exactly when it is there and not empty. -/
theorem namedPlugin_eq_some_iff {plugin : Option String} {p : String} :
    namedPlugin plugin = some p ↔ plugin = some p ∧ p ≠ "" := by
  constructor
  · intro h
    unfold namedPlugin at h
    split at h
    · cases h
    next hne =>
      refine ⟨h, ?_⟩
      rintro rfl
      exact hne h
  · rintro ⟨rfl, hp⟩
    unfold namedPlugin
    split
    next e => exact absurd (Option.some.inj e) hp
    next => rfl

theorem namedPlugin_some_of_ne {p : String} (h : p ≠ "") : namedPlugin (some p) = some p :=
  namedPlugin_eq_some_iff.2 ⟨rfl, h⟩

@[simp] theorem plugin_inPlugin_of_ne {m : Metadata} {p : String} (h : p ≠ "") :
    (m.inPlugin p).plugin = some p :=
  namedPlugin_some_of_ne h

example : (Metadata.mk (some "") "Now" "" anyObject).qualifiedName = "Now" := by decide +kernel
example : (Metadata.mk (some "Time") "Now" "" anyObject).is (some "TIME") "now" = true := by
  decide +kernel

end Metadata

end FunctionCalling
