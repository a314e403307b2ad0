/-
  A conversation with a model, request by request.

  A `Conversation` holds what a host keeps between requests: the history, what holds for the
  current request, the calls asked for last, and the clock.  A request is configured from the
  history so far; the calls of the answer are recorded and then invoked, and what comes of them
  is added to the history.
-/
import FunctionCalling.Invocation

namespace FunctionCalling

open FunctionCalling.Choice (Behavior Configuration)

/-- What a host keeps between requests. -/
structure Conversation where
  registry : Registry
  policy : Naming.Policy
  limits : Limits
  validator : Schema.Validator
  history : History
  /-- What holds for the current request. -/
  configuration : Option Configuration
  /-- The calls that were recorded last. -/
  lastCalls : List ToolCall
  /-- Milliseconds since the beginning. -/
  clock : Nat

namespace Conversation

/-- A conversation that has not begun, with the validator of the program. -/
def start (registry : Registry) (policy : Naming.Policy) (limits : Limits) : Conversation :=
  ⟨registry, policy, limits, .builtIn, [], none, [], 0⟩

/-- Configures the next request; when that fails the old configuration stays. -/
def configure (c : Conversation) (b : Behavior) : Except Error (Configuration × Conversation) := do
  let configuration ← b.configuration (some c.registry) c.history
  return (configuration, { c with configuration := some configuration })

/-- Adds messages to the history. -/
def add (c : Conversation) (messages : List Message) : Conversation :=
  { c with history := c.history ++ messages }

/-- Records the calls that a model asked for. -/
def record (c : Conversation) (calls : List ToolCall) : Conversation :=
  { c.add [.ofToolCalls calls] with lastCalls := calls }

/-- What runs the calls of the conversation. -/
def invoker (c : Conversation) : Invoker :=
  ⟨c.registry, c.policy, c.limits, c.validator⟩

/-- Deals with calls under the current configuration, if there is one; the results are added to
    the history on demand. -/
def invoke (c : Conversation) (calls : List ToolCall) (append : Bool) :
    Option (Batch × Conversation) :=
  c.configuration.map fun configuration =>
    let batch := c.invoker.invoke configuration c.clock calls
    let messages := if append then batch.outcome.messages else []
    (batch, { c.add messages with clock := batch.finish })

/-- A request is configured when the behavior comes to a configuration; nothing else changes. -/
theorem configure_eq_ok_iff {c c' : Conversation} {b : Behavior} {configuration : Configuration} :
    c.configure b = .ok (configuration, c') ↔
      b.configuration (some c.registry) c.history = .ok configuration ∧
        c' = { c with configuration := some configuration } := by
  cases h : b.configuration (some c.registry) c.history with
  | error fault => simp [configure, h, bind, Except.bind]
  | ok settled =>
    simp only [configure, h, bind, Except.bind, pure, Except.pure, Except.ok.injEq, Prod.mk.injEq]
    constructor
    · rintro ⟨rfl, rfl⟩
      exact ⟨rfl, rfl⟩
    · rintro ⟨rfl, rfl⟩
      exact ⟨rfl, rfl⟩

end Conversation

end FunctionCalling
