/-
  What a conversation writes down.

  A conversation goes on in turns (`Turn`): somebody says something, or the model asks for calls,
  which are recorded and dealt with, and what comes of them is added.  Registry, policy, limits,
  validator and configuration may be others in every turn.

  All a turn does to the history is to put messages at its end (`Conversation.history_take`), and
  which messages these are depends on the turn alone (`Turn.messages`), not on what was written
  before.  So by induction the history after any turns is the one before them and the messages of
  the turns, one turn after the other (`Conversation.history_run`).  Everything else is read off
  this:

  1. nothing that was written is changed or removed;
  2. behind the message that asks for calls stand their answers, one for each call and in their
     order, or nothing if the calls are left to the host;
  3. answers ask for no calls (`Outcome.toolCalls_messages`), so the calls that a history tells of
     are those that were asked for.
-/
import FunctionCalling.Conversation
import FunctionCalling.Proofs.Failures

namespace FunctionCalling

open FunctionCalling.Choice (Configuration)

/-! ## Turns -/

/-- What happens next in a conversation. -/
inductive Turn where
  /-- Somebody says something. -/
  | said (role : Role) (text : String)
  /-- The model asks for calls, and they are dealt with as it holds at the moment. -/
  | asked (inv : Invoker) (configuration : Configuration) (clock : Nat) (calls : List ToolCall)

namespace Turn

/-- The calls that are asked for. -/
def calls : Turn → List ToolCall
  | said _ _ => []
  | asked _ _ _ calls => calls

/-- The messages that are written. -/
def messages : Turn → List Message
  | said role text => [.ofText role text]
  | asked inv configuration clock calls =>
    .ofToolCalls calls :: (inv.invoke configuration clock calls).outcome.messages

end Turn

namespace Conversation

/-- The conversation under whatever holds at the moment. -/
def hosted (c : Conversation) (inv : Invoker) (configuration : Configuration) (clock : Nat) :
    Conversation :=
  ⟨inv.registry, inv.policy, inv.limits, inv.validator, c.history, some configuration, c.lastCalls,
    clock⟩

/-- The conversation after a turn. -/
def take (c : Conversation) : Turn → Conversation
  | .said role text => c.add [.ofText role text]
  | .asked inv configuration clock calls =>
    let recorded := (c.hosted inv configuration clock).record calls
    match recorded.invoke calls true with
    | some (_, answered) => answered
    | none => recorded

/-- The conversation after several turns. -/
def run (c : Conversation) (turns : List Turn) : Conversation :=
  turns.foldl take c

theorem run_append (c : Conversation) (before after : List Turn) :
    c.run (before ++ after) = (c.run before).run after :=
  List.foldl_append

/-- **All that a turn does to the history is to write its messages at the end.** -/
theorem history_take (c : Conversation) (turn : Turn) :
    (c.take turn).history = c.history ++ turn.messages := by
  cases turn with
  | said role text => rfl
  | asked inv configuration clock calls =>
    show c.history ++ [.ofToolCalls calls] ++
        (inv.invoke configuration clock calls).outcome.messages = _
    rw [List.append_assoc, List.singleton_append]
    rfl

/-- By induction on the turns. -/
theorem history_run (c : Conversation) (turns : List Turn) :
    (c.run turns).history = c.history ++ turns.flatMap Turn.messages := by
  induction turns generalizing c with
  | nil => exact (List.append_nil _).symm
  | cons turn turns ih =>
    have hrest : (c.run (turn :: turns)).history = ((c.take turn).run turns).history := rfl
    rw [hrest, ih, history_take, List.flatMap_cons, List.append_assoc]

/-- What one turn among others adds. -/
theorem history_run_concat (c : Conversation) (before : List Turn) (turn : Turn) :
    (c.run (before ++ [turn])).history = (c.run before).history ++ turn.messages := by
  rw [run_append]
  exact history_take _ turn

end Conversation

/-! ## Calls that a history tells of -/

/-- Answers ask for no calls. -/
theorem Outcome.toolCalls_messages (outcome : Outcome) :
    History.toolCalls outcome.messages = [] := by
  cases outcome with
  | manual calls => rfl
  | invoked results =>
    refine List.flatMap_eq_nil_iff.2 ?_
    intro m hm
    obtain ⟨result, -, rfl⟩ := List.mem_map.1 hm
    rfl

theorem Turn.toolCalls_messages (turn : Turn) : History.toolCalls turn.messages = turn.calls := by
  cases turn with
  | said role text => rfl
  | asked inv configuration clock calls =>
    have hcons : History.toolCalls (Turn.asked inv configuration clock calls).messages = calls ++
        History.toolCalls (inv.invoke configuration clock calls).outcome.messages := rfl
    rw [hcons, Outcome.toolCalls_messages, List.append_nil]
    rfl

theorem toolCalls_flatMap_messages (turns : List Turn) :
    History.toolCalls (turns.flatMap Turn.messages) = turns.flatMap Turn.calls := by
  induction turns with
  | nil => rfl
  | cons turn turns ih =>
    rw [List.flatMap_cons, History.toolCalls_append, turn.toolCalls_messages, ih,
      List.flatMap_cons]

/-! ## Answers -/

/-- The message that answers a call with its result. -/
def answerTo (call : ToolCall) (result : CallResult) : Message :=
  ⟨.tool, some result.text, none, some call.id⟩

/-- Results of calls, one for each, are told by one answer for each. -/
theorem map_toMessage_eq_zipWith {calls : List ToolCall} {results : List CallResult}
    (hlength : results.length = calls.length)
    (hid : ∀ (i : Nat) (call : ToolCall), calls[i]? = some call →
      ∃ text, results[i]? = some ⟨call.id, call.function.name, text⟩) :
    results.map CallResult.toMessage = calls.zipWith answerTo results := by
  refine List.ext_getElem? fun i => ?_
  rw [List.getElem?_map, List.getElem?_zipWith]
  cases hcall : calls[i]? with
  | none =>
    have hbeyond : results[i]? = none := by
      rw [List.getElem?_eq_none_iff] at hcall ⊢
      omega
    rw [hbeyond]
    rfl
  | some call =>
    obtain ⟨text, hresult⟩ := hid i call hcall
    rw [hresult]
    rfl

/-- **Each recorded call is answered once.**  Let a conversation, with whatever history, take any
    turns.  Then

    1. what was written at some point stays as it is;
    2. saying something writes that message;
    3. calls that are left to the host write the message that asks for them, and nothing else;
    4. calls that are run write that message and behind it one answer for each call, in order, with
       the id of the call and the text of its result, which is what the run of this call came to;
    5. the calls that the history tells of are those of the history at the beginning and those of
       the turns, in order. -/
theorem each_call_answered_once (c : Conversation) (turns : List Turn) :
    (∀ before after : List Turn, turns = before ++ after →
      (c.run before).history <+: (c.run turns).history) ∧
    (∀ (before after : List Turn) (role : Role) (text : String),
      turns = before ++ .said role text :: after →
      (c.run (before ++ [.said role text])).history =
        (c.run before).history ++ [⟨role, some text, none, none⟩]) ∧
    (∀ (before after : List Turn) (inv : Invoker) (configuration : Configuration) (clock : Nat)
        (calls : List ToolCall),
      turns = before ++ .asked inv configuration clock calls :: after →
      let grown := (c.run (before ++ [.asked inv configuration clock calls])).history
      let asking : Message := ⟨.assistant, none, some calls, none⟩
      (configuration.autoInvoke = false → grown = (c.run before).history ++ [asking]) ∧
      (configuration.autoInvoke = true → ∃ results,
        (inv.invoke configuration clock calls).outcome = .invoked results ∧
        results.length = calls.length ∧
        (∀ (i : Nat) (call : ToolCall), calls[i]? = some call →
          ∃ run, (inv.invoke configuration clock calls).runs[i]? = some run ∧
            results[i]? = some ⟨call.id, call.function.name, run.text⟩) ∧
        grown = (c.run before).history ++ asking :: calls.zipWith answerTo results)) ∧
    (c.run turns).history.toolCalls = c.history.toolCalls ++ turns.flatMap Turn.calls := by
  refine ⟨?_, ?_, ?_, ?_⟩
  · rintro before after rfl
    rw [Conversation.run_append, Conversation.history_run (c.run before)]
    exact List.prefix_append _ _
  · intro before after role text _
    exact c.history_run_concat before (.said role text)
  · intro before after inv configuration clock calls _
    have hgrown := c.history_run_concat before (.asked inv configuration clock calls)
    constructor
    · intro hmanual
      have hnothing : (inv.invoke configuration clock calls).outcome.messages = [] := by
        rw [Invoker.outcome_invoke_of_manual hmanual]
        rfl
      rw [hgrown, Turn.messages, hnothing]
      rfl
    · intro hauto
      obtain ⟨results, houtcome, hlength, hall⟩ :=
        Invoker.exists_results_of_auto hauto inv clock calls
      have hruns : ∀ (i : Nat) (call : ToolCall), calls[i]? = some call →
          ∃ run, (inv.invoke configuration clock calls).runs[i]? = some run ∧
            results[i]? = some ⟨call.id, call.function.name, run.text⟩ := by
        intro i call hcall
        obtain ⟨moment, run, -, -, hrun, hresult⟩ := hall i call hcall
        exact ⟨run, hrun, hresult⟩
      refine ⟨results, houtcome, hlength, hruns, ?_⟩
      have hmessages := map_toMessage_eq_zipWith hlength fun i call hcall =>
        (hruns i call hcall).elim fun run hrun => ⟨run.text, hrun.2⟩
      rw [hgrown, Turn.messages, houtcome, Outcome.messages, hmessages]
      rfl
  · rw [c.history_run, History.toolCalls_append, toolCalls_flatMap_messages]

/-- Two calls of one id, one that takes too long and one of a name that is no function's, are run,
    and in the next turn left to the host. -/
theorem each_call_answered_once_same_id :
    let inv : Invoker := ⟨.paced, .default, ⟨30000, some 500, false, false⟩, .builtIn⟩
    let c : Configuration := ⟨.auto, Registry.paced.functions, true, false⟩
    let calls : List ToolCall :=
      [.ofFunction "1" "Tools-Slow" "\x7b\x7d", .ofFunction "1" "Nope" "\x7b\x7d"]
    let asking : Message := .ofToolCalls calls
    let turns : List Turn := [.said .user "Hello", .asked inv c 0 calls,
      .asked inv { c with autoInvoke := false } 500 calls]
    let begun : Conversation := .start .empty .default .default
    (begun.run turns).history = [.ofText .user "Hello", asking,
      .ofResult "1" (Complaint.timedOut "Tools-Slow" 500).message,
      .ofResult "1" (Complaint.notAvailable "Nope").message, asking] ∧
    (begun.run turns).history.toolCalls = calls ++ calls := by
  intro inv c calls asking turns begun
  obtain ⟨-, hsaid, hasked, hcalls⟩ := each_call_answered_once begun turns
  have hfirst := hsaid [] _ .user "Hello" rfl
  obtain ⟨results, hresults, -, -, hsecond⟩ :=
    (hasked [.said .user "Hello"] _ inv c 0 calls rfl).2 rfl
  have hthird := (hasked [.said .user "Hello", .asked inv c 0 calls] [] inv
    { c with autoInvoke := false } 500 calls rfl).1 rfl
  have houtcome : (inv.invoke c 0 calls).outcome =
      .invoked [⟨"1", "Tools-Slow", (Complaint.timedOut "Tools-Slow" 500).message⟩,
        ⟨"1", "Nope", (Complaint.notAvailable "Nope").message⟩] := by
    decide +kernel
  obtain rfl := Outcome.invoked.inj (houtcome.symm.trans hresults)
  refine ⟨hthird.trans ?_, hcalls⟩
  show (begun.run ([.said .user "Hello"] ++ [.asked inv c 0 calls])).history ++ [asking] = _
  rw [hsecond]
  show (begun.run ([] ++ [.said .user "Hello"])).history ++ _ ++ [asking] = _
  rw [hfirst]
  rfl

end FunctionCalling
