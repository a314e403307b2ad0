/-
  Functions that can be called.

  A `Draft` is what a host supplies: metadata and a handler.  A `Callable` is a draft that has
  been given an identity, a number that no other callable of the host has; two callables may
  agree in everything else and are still two.  Taking a draft into a plugin writes the plugin's
  name into the metadata and leaves the handler alone.
-/
import FunctionCalling.Callable.Handler
import FunctionCalling.Callable.Metadata
import FunctionCalling.Schema.Validate
import FunctionCalling.Text.Quoted

namespace FunctionCalling

/-- A function as a host supplies it. -/
structure Draft where
  metadata : Metadata
  handler : Handler

/-- A function that is declared and has nothing to run. -/
def Draft.declared (metadata : Metadata) : Draft :=
  ⟨metadata, .declared metadata.qualifiedName⟩

/-- How diagnostics show a function that a host supplies. -/
def Draft.describe (draft : Draft) : String :=
  "FnFunction \x7b name: " ++ Text.quoted draft.metadata.qualifiedName ++ " \x7d"

/-- A function with an identity. -/
structure Callable where
  id : Nat
  metadata : Metadata
  handler : Handler

namespace Callable

/-- A draft on its own, outside any plugin. -/
def ofDraft (id : Nat) (draft : Draft) : Callable :=
  ⟨id, draft.metadata, draft.handler⟩

/-- A draft as a member of a plugin. -/
def ofMember (id : Nat) (plugin : String) (draft : Draft) : Callable :=
  ⟨id, draft.metadata.inPlugin plugin, draft.handler⟩

/-- The name without the plugin. -/
def name (f : Callable) : String :=
  f.metadata.name

/-- The plugin, when there is one. -/
def plugin (f : Callable) : Option String :=
  f.metadata.plugin

/-- The name under which people know the function. -/
def qualifiedName (f : Callable) : String :=
  f.metadata.qualifiedName

/-- Whether two handles are the same function. -/
def sameAs (f g : Callable) : Bool :=
  f.id == g.id

/-- How diagnostics show a function. -/
def describe (f : Callable) : String :=
  "KernelFunction(" ++ f.qualifiedName ++ ")"

@[simp] theorem sameAs_iff {f g : Callable} : f.sameAs g = true ↔ f.id = g.id := by
  simp [sameAs]

end Callable

/-- What is wrong with arguments for a function, blank ones being read as an object without members:
    they are no JSON, or the validator finds something.  A schema that cannot be used as one is
    satisfied by all arguments that are JSON. -/
def Schema.Validator.check (validator : Schema.Validator) (m : Metadata) (arguments : String) :
    Option Complaint :=
  match Json.parse (givenArguments arguments) with
  | .error fault => some (.notJson m.qualifiedName fault)
  | .ok v =>
    match validator.compile? m.parameters with
    | none => none
    | some findings =>
      match findings v with
      | [] => none
      | found => some (.notValid m.qualifiedName found)

/-- What the validator of the program makes of arguments. -/
def Metadata.checkArguments (m : Metadata) (arguments : String) : Option Complaint :=
  Schema.Validator.builtIn.check m arguments

end FunctionCalling
