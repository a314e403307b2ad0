/-
  Settings for requests, as they are kept in files.

  Settings say in JSON what a host could say in code: a behavior, a naming policy and limits.
  They deny fields they do not know.  Functions are referred to as `Plugin.Function`, split at
  the first dot, or by the function's name alone; what a reference stands for depends on the
  registry (`BehaviorSettings.toBehavior`).
-/
import FunctionCalling.Invocation
import FunctionCalling.Manifest

namespace FunctionCalling

open FunctionCalling.Choice (Behavior Mode)
open FunctionCalling.Json (Shape)
open FunctionCalling.Naming (Policy)
open FunctionCalling.Text

/-! ## Behaviors -/

/-- A behavior in settings. -/
structure BehaviorSettings where
  mode : Mode
  /-- References to functions, or every registered function. -/
  functions : Option (List String)
  autoInvoke : Bool
  allowAny : Bool
deriving DecidableEq, Repr

namespace BehaviorSettings

/-- What a mode means unless more is said. -/
def ofMode (mode : Mode) : BehaviorSettings :=
  ⟨mode, none, true, false⟩

/-- How a behavior is written. -/
def shape : Shape BehaviorSettings :=
  .record "FunctionChoiceBehaviorSettings" .denyUnknown
    (.required "type" Mode.shape <|
      .whenSome "functions" (.list .text) <|
      .withDefault "auto_invoke" .flag true <|
      .withDefault "allow_any_requested_function" .flag false <|
      .done)
    (fun (mode, functions, autoInvoke, allowAny, ()) => ⟨mode, functions, autoInvoke, allowAny⟩)
    (fun s => (s.mode, s.functions, s.autoInvoke, s.allowAny, ()))

/-- A reference taken apart: plugin and function around the first dot. -/
def splitReference (reference : String) : Option String × String :=
  match splitFirst ['.'] reference.toList with
  | some (plugin, function) => (some (String.ofList plugin), String.ofList function)
  | none => (none, reference)

/-- The function that a reference stands for. -/
def resolveReference (registry : Option Registry) (reference : String) :
    Except Error Callable :=
  let (plugin, function) := splitReference reference
  match registry.bind fun r => r.get? plugin function with
  | some f => .ok f
  | none => .error (.functionNotFound reference)

/-- The functions that several references stand for; the first that stands for none is
    reported. -/
def resolveReferences (registry : Option Registry) : List String → Except Error (List Callable)
  | [] => .ok []
  | reference :: rest => do
    let f ← resolveReference registry reference
    let functions ← resolveReferences registry rest
    return f :: functions

/-- The behavior that settings describe. -/
def toBehavior (s : BehaviorSettings) (registry : Option Registry) : Except Error Behavior := do
  let b := ((Behavior.ofMode s.mode).withAutoInvoke s.autoInvoke).withAllowAny s.allowAny
  match s.functions with
  | none => return b
  | some references => return b.withFunctions (← resolveReferences registry references)

end BehaviorSettings

/-! ## Policies -/

/-- A naming policy in settings. -/
structure PolicySettings where
  separator : String
  nameOnly : Bool
  /-- Separators to try besides the first. -/
  fallbackSeparators : List String
deriving DecidableEq, Repr

namespace PolicySettings

/-- The default separator and no other. -/
def default : PolicySettings :=
  ⟨Naming.defaultSeparator, false, []⟩

/-- How a policy is written. -/
def shape : Shape PolicySettings :=
  .record "FunctionNamePolicySettings" .denyUnknown
    (.withDefault "separator" .text Naming.defaultSeparator <|
      .withDefault "use_function_name_only" .flag false <|
      .whenAny "fallback_separators" .text <|
      .done)
    (fun (separator, nameOnly, fallbackSeparators, ()) =>
      ⟨separator, nameOnly, fallbackSeparators⟩)
    (fun s => (s.separator, s.nameOnly, s.fallbackSeparators, ()))

/-- The policy that settings describe.  With further separators names are read by trying all of
    them, the first one first, unless functions go by their name alone. -/
def toPolicy (s : PolicySettings) : Policy where
  separator := s.separator
  nameOnly := s.nameOnly
  reader :=
    if s.nameOnly || s.fallbackSeparators.isEmpty then none
    else some (Naming.trySeparators (s.separator :: s.fallbackSeparators))

end PolicySettings

/-! ## Limits -/

/-- Limits in settings. -/
structure InvocationSettings where
  /-- 0 is no limit. -/
  timeoutSecs : UInt64
  maxResultBytes : UInt64
  validateArguments : Bool
  sequential : Bool
deriving DecidableEq, Repr

namespace InvocationSettings

/-- The default limits. -/
def default : InvocationSettings :=
  ⟨60, 30000, true, false⟩

/-- How limits are written. -/
def shape : Shape InvocationSettings :=
  .record "InvocationSettings" .denyUnknown
    (.withDefault "timeout_secs" (.word "u64") default.timeoutSecs <|
      .withDefault "max_result_bytes" (.word "usize") default.maxResultBytes <|
      .withDefault "validate_arguments" .flag default.validateArguments <|
      .withDefault "sequential" .flag default.sequential <|
      .done)
    (fun (timeoutSecs, maxResultBytes, validateArguments, sequential, ()) =>
      ⟨timeoutSecs, maxResultBytes, validateArguments, sequential⟩)
    (fun s => (s.timeoutSecs, s.maxResultBytes, s.validateArguments, s.sequential, ()))

/-- The limits that settings describe. -/
def toLimits (s : InvocationSettings) : Limits where
  maxResultBytes := s.maxResultBytes.toNat
  timeout := if s.timeoutSecs = 0 then none else some (s.timeoutSecs.toNat * 1000)
  validateArguments := s.validateArguments
  sequential := s.sequential

end InvocationSettings

/-! ## All settings of a request -/

/-- The settings of a request; without a behavior functions are not used. -/
structure ExecutionSettings where
  behavior : Option BehaviorSettings
  policy : PolicySettings
  invocation : InvocationSettings
deriving DecidableEq, Repr

namespace ExecutionSettings

/-- Nothing but defaults. -/
def default : ExecutionSettings :=
  ⟨none, .default, .default⟩

/-- How settings are written. -/
def shape : Shape ExecutionSettings :=
  .record "ExecutionSettings" .denyUnknown
    (.whenSome "function_choice_behavior" BehaviorSettings.shape <|
      .withDefault "function_name_policy" PolicySettings.shape .default <|
      .withDefault "invocation" InvocationSettings.shape .default <|
      .done)
    (fun (behavior, policy, invocation, ()) => ⟨behavior, policy, invocation⟩)
    (fun s => (s.behavior, s.policy, s.invocation, ()))

/-- Reads settings. -/
def ofText (text : String) : Except Error ExecutionSettings :=
  (shape.parse text).mapError .json

end ExecutionSettings

end FunctionCalling
