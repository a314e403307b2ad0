/-
  A selector that stops offering functions which were called often enough.

  Calls are counted over the whole history and per function, not per name: a name that the model
  used is read under the policy and looked up, so all the names that stand for one function count
  together.  A function is known by its `identity`, the folded names of what the registry holds;
  names that stand for nothing are identified by themselves.

  While nothing has been called the selector leaves the candidates alone.
-/
import FunctionCalling.Choice

namespace FunctionCalling.Choice

open FunctionCalling.Text

/-- The folded names of the function that a plugin, possibly absent, and a function name stand
    for; those names themselves when they stand for none. -/
def identity (registry : Option Registry) (plugin : Option String) (function : String) :
    String × String :=
  match registry.bind fun r => r.get? plugin function with
  | some f => (fold (f.plugin.getD ""), fold f.name)
  | none => (fold (plugin.getD ""), fold function)

/-- A limit on the number of calls of each function. -/
structure CallLimit where
  maxCalls : Nat
  policy : Naming.Policy
  /-- The names of functions that have no limit. -/
  alwaysInclude : List String

namespace CallLimit

/-- The identity of the function that a call is of. -/
def callIdentity (limit : CallLimit) (registry : Option Registry) (call : ToolCall) :
    String × String :=
  let parsed := limit.policy.parse call.function.name registry
  identity registry parsed.plugin parsed.function

/-- How often each function was called. -/
def callCounts (limit : CallLimit) (registry : Option Registry) (history : History) :
    List ((String × String) × Nat) :=
  tally (history.toolCalls.map (limit.callIdentity registry))

/-- Whether a candidate may still be called, given the counts. -/
def keeps (limit : CallLimit) (registry : Option Registry)
    (counts : List ((String × String) × Nat)) (f : Callable) : Bool :=
  limit.alwaysInclude.contains (limit.policy.fqn f.metadata)
    || ((counts.lookup (identity registry f.plugin f.name)).getD 0) < limit.maxCalls

/-- The limit as a selector. -/
def selector (limit : CallLimit) : Selector := fun s =>
  match limit.callCounts s.registry s.history with
  | [] => none
  | counts => some (s.candidates.filter (limit.keeps s.registry counts))

end CallLimit

end FunctionCalling.Choice
