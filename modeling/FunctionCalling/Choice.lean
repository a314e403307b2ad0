/-
  Which functions a model may use, and how.

  A `Behavior` is a standing wish: how the model is to use functions, which functions (all that
  are registered, or an explicit list), and a selector that may narrow them down for each
  request.  `Behavior.configuration` makes it definite for one request:

  1. the candidates are the explicit list as it stands, else all registered functions, else
     none; a selector that answers replaces them by its list;
  2. when functions are to be invoked automatically there must be a registry, and it must hold
     every candidate.

  Only the uses `auto` and `required` can lead to invocation at all.
-/
import FunctionCalling.History
import FunctionCalling.Naming

namespace FunctionCalling.Choice

open FunctionCalling.Json (Shape)
open FunctionCalling.Text

/-! ## Behaviors -/

/-- How a model is asked to use the functions it is offered. -/
inductive Mode where
  /-- It may call functions. -/
  | auto
  /-- It must call a function. -/
  | required
  /-- It sees functions and calls none. -/
  | none
deriving DecidableEq, Repr

/-- The word for a mode. -/
def Mode.word : Mode → String
  | auto => "auto"
  | required => "required"
  | none => "none"

/-- A mode, as a word. -/
def Mode.shape : Shape Mode :=
  .choice [.auto, .required, .none] Mode.word

/-- What may be run on behalf of a model. -/
structure Permission where
  /-- Calls are run without asking anybody. -/
  autoInvoke : Bool
  /-- Registered functions are run even if they were not offered. -/
  allowAny : Bool
deriving DecidableEq, Repr

/-- Calls are run, of functions that were offered. -/
def Permission.default : Permission :=
  ⟨true, false⟩

/-- How the functions are used; only two of the uses can lead to invocation. -/
inductive Use where
  | auto (permission : Permission)
  | required (permission : Permission)
  | none
deriving DecidableEq, Repr

/-- What a selector may look at. -/
structure Selection where
  candidates : List Callable
  history : History
  registry : Option Registry

/-- Narrows down or replaces the candidates for a request, or leaves them as they are. -/
abbrev Selector :=
  Selection → Option (List Callable)

/-- A standing wish about functions. -/
structure Behavior where
  use : Use
  /-- An explicit list, or every registered function. -/
  functions : Option (List Callable)
  selector : Option Selector

namespace Use

/-- The mode of a use. -/
def mode : Use → Mode
  | auto _ => .auto
  | required _ => .required
  | none => .none

/-- What may be run. -/
def permission : Use → Permission
  | auto p => p
  | required p => p
  | none => ⟨false, false⟩

/-- The use with another permission, where there is one. -/
def mapPermission (f : Permission → Permission) : Use → Use
  | auto p => .auto (f p)
  | required p => .required (f p)
  | none => .none

end Use

namespace Behavior

/-- What a mode means unless more is said. -/
def ofMode : Mode → Behavior
  | .auto => ⟨.auto .default, none, none⟩
  | .required => ⟨.required .default, none, none⟩
  | .none => ⟨.none, none, none⟩

/-- All registered functions, used freely. -/
def default : Behavior :=
  ofMode .auto

/-- The behavior with an explicit list of functions. -/
def withFunctions (b : Behavior) (functions : List Callable) : Behavior :=
  { b with functions := some functions }

/-- The behavior with a selector. -/
def withSelector (b : Behavior) (selector : Selector) : Behavior :=
  { b with selector := some selector }

/-- The behavior with automatic invocation on or off, where there can be any. -/
def withAutoInvoke (b : Behavior) (autoInvoke : Bool) : Behavior :=
  { b with use := b.use.mapPermission fun p => { p with autoInvoke := autoInvoke } }

/-- The behavior that runs functions that were not offered, or not, where any are run. -/
def withAllowAny (b : Behavior) (allowAny : Bool) : Behavior :=
  { b with use := b.use.mapPermission fun p => { p with allowAny := allowAny } }

end Behavior

/-! ## Configurations -/

/-- What holds for one request. -/
structure Configuration where
  mode : Mode
  /-- The functions that are offered, in order. -/
  functions : List Callable
  autoInvoke : Bool
  allowAny : Bool

namespace Behavior

/-- The functions to start from: the explicit list, or those of the registry. -/
def base (b : Behavior) (registry : Option Registry) : List Callable :=
  match b.functions with
  | some functions => functions
  | none => (registry.map Registry.functions).getD []

/-- The functions to offer: those the selector answers with, or those to start from. -/
def candidates (b : Behavior) (registry : Option Registry) (history : History) : List Callable :=
  let base := b.base registry
  match b.selector with
  | some select => (select ⟨base, history, registry⟩).getD base
  | none => base

/-- Refuses automatic invocation without a registry and of functions that it does not hold. -/
def checkInvocable (functions : List Callable) : Option Registry → Except Error Unit
  | none => .error .autoInvokeWithoutRegistry
  | some r =>
    match functions.find? fun f => !r.contains f.metadata with
    | some f => .error (.functionNotAvailable f.qualifiedName)
    | none => .ok ()

/-- What a behavior comes to for one request. -/
def configuration (b : Behavior) (registry : Option Registry) (history : History) :
    Except Error Configuration := do
  let functions := b.candidates registry history
  let permission := b.use.permission
  if permission.autoInvoke then checkInvocable functions registry
  return ⟨b.use.mode, functions, permission.autoInvoke, permission.allowAny⟩

end Behavior

namespace Behavior

/-- Functions can be invoked exactly when there is a registry that holds all of them. -/
theorem checkInvocable_eq_ok_iff {functions : List Callable} {registry : Option Registry} :
    checkInvocable functions registry = .ok () ↔
      ∃ r, registry = some r ∧ ∀ f ∈ functions, r.contains f.metadata = true := by
  cases registry with
  | none => simp [checkInvocable]
  | some r =>
    cases h : functions.find? fun f => !r.contains f.metadata with
    | none =>
      have hall := List.find?_eq_none.1 h
      simp only [checkInvocable, h, Option.some.injEq, exists_eq_left', true_iff]
      intro f hf
      simpa using hall f hf
    | some f =>
      have hmem := List.mem_of_find?_eq_some h
      have hmissing : (!r.contains f.metadata) = true :=
        List.find?_some (p := fun f : Callable => !r.contains f.metadata) h
      simp only [checkInvocable, h, Option.some.injEq, exists_eq_left', reduceCtorEq, false_iff]
      intro hall
      rw [hall f hmem] at hmissing
      cases hmissing

/-- When a behavior comes to a configuration, and to which. -/
theorem configuration_eq_ok_iff {b : Behavior} {registry : Option Registry} {history : History}
    {c : Configuration} :
    b.configuration registry history = .ok c ↔
      (b.use.permission.autoInvoke = true →
        checkInvocable (b.candidates registry history) registry = .ok ()) ∧
      c = ⟨b.use.mode, b.candidates registry history, b.use.permission.autoInvoke,
        b.use.permission.allowAny⟩ := by
  unfold configuration
  by_cases hauto : b.use.permission.autoInvoke = true
  · cases hcheck : checkInvocable (b.candidates registry history) registry with
    | error fault => simp [hauto, hcheck, bind, Except.bind]
    | ok u => simp [hauto, hcheck, bind, Except.bind, pure, Except.pure, eq_comm]
  · simp [hauto, pure, Except.pure, eq_comm]

end Behavior

namespace Configuration

/-- Whether a function of the registry is offered: it is one of the functions, or what the
    registry holds under the names of one of them. -/
def isAdvertised (c : Configuration) (r : Registry) (function : Callable) : Bool :=
  c.functions.any fun f =>
    f.sameAs function || (r.entry? f.metadata).any fun entry => entry.sameAs function

/-- The tools to send to the model. -/
def tools (c : Configuration) (policy : Naming.Policy) : List ToolDefinition :=
  c.functions.map fun f =>
    .ofFunction (policy.fqn f.metadata) f.metadata.description f.metadata.parameters

/-- The mode to send to the model; nothing when there are no tools. -/
def toolChoice (c : Configuration) : Option Mode :=
  if c.functions.isEmpty then none else some c.mode

end Configuration

/-! ## How diagnostics show a behavior -/

/-- A list that may be absent. -/
def describeFunctions : Option (List Callable) → String
  | none => "None"
  | some functions => "Some(" ++ bracketed (functions.map Callable.describe) ++ ")"

/-- The options of a behavior that can lead to invocation. -/
def Behavior.describeInvocable (b : Behavior) (p : Permission) : String :=
  "InvocableChoice \x7b functions: " ++ describeFunctions b.functions
    ++ ", auto_invoke: " ++ toString p.autoInvoke
    ++ ", selector: " ++ toString b.selector.isSome
    ++ ", allow_any_requested_function: " ++ toString p.allowAny ++ " \x7d"

/-- A behavior on one line. -/
def Behavior.describe (b : Behavior) : String :=
  match b.use with
  | .auto p => "Auto(" ++ b.describeInvocable p ++ ")"
  | .required p => "Required(" ++ b.describeInvocable p ++ ")"
  | .none =>
    "None(AdvertisedChoice \x7b functions: " ++ describeFunctions b.functions
      ++ ", selector: " ++ toString b.selector.isSome ++ " \x7d)"

end FunctionCalling.Choice
