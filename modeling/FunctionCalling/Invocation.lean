/-
  Running the calls that a model asks for.

  Each call goes through the same gates (`Invoker.permit`): the name must stand for a registered
  function, the function must have been offered unless any may be called, and the arguments must
  satisfy its schema, by the validator of the invoker, if that is checked.  A call that passes
  enters the handler of the function that the registry holds, and no other; a call that does not
  never enters one.  `Invoker.Verdict` says all that can become of a call at the gates, and why.

  Time is counted in milliseconds and passes only while a handler pauses.  A handler that takes
  longer than the limit is cut off at the limit; one that is done exactly then is done.  Calls
  run in turn, or all from the same moment on.  Each has its own occasion, so that a handler that
  is entered for two of them may do different things.
-/
import FunctionCalling.Choice
import FunctionCalling.Text.Truncate

namespace FunctionCalling

open FunctionCalling.Choice (Configuration)
open FunctionCalling.Text

/-! ## Calls and results -/

/-- A call with its name taken apart. -/
structure ParsedCall where
  id : String
  /-- The name as the model wrote it. -/
  fqn : String
  name : Naming.Parsed
  arguments : String
deriving DecidableEq, Repr

namespace ParsedCall

/-- A call read under a policy. -/
def ofToolCall (policy : Naming.Policy) (registry : Option Registry) (call : ToolCall) :
    ParsedCall :=
  ⟨call.id, call.function.name, policy.parse call.function.name registry,
    call.function.arguments⟩

/-- The call as the model wrote it. -/
def toToolCall (call : ParsedCall) : ToolCall :=
  .ofFunction call.id call.fqn call.arguments

@[simp] theorem toToolCall_ofToolCall (policy : Naming.Policy) (registry : Option Registry)
    (call : ToolCall) : (ofToolCall policy registry call).toToolCall = call := by
  cases call with
  | mk id kind function => cases kind; rfl

end ParsedCall

/-- What a call came to. -/
structure CallResult where
  callId : String
  fqn : String
  text : String
deriving DecidableEq, Repr

/-- The message that answers the call. -/
def CallResult.toMessage (r : CallResult) : Message :=
  .ofResult r.callId r.text

/-- What became of the calls of one message. -/
inductive Outcome where
  /-- Nothing was run; the calls are left to the host. -/
  | manual (calls : List ParsedCall)
  /-- The results, in the order of the calls. -/
  | invoked (results : List CallResult)
deriving DecidableEq, Repr

/-- The messages that answer the calls. -/
def Outcome.messages : Outcome → List Message
  | manual _ => []
  | invoked results => results.map CallResult.toMessage

/-! ## What handlers note -/

/-- A moment in the run of a handler. -/
inductive Moment where
  /-- It answers at once. -/
  | run
  /-- It begins to pause. -/
  | start
  /-- It is done pausing. -/
  | finish
deriving DecidableEq, Repr

/-- What a handler notes and when. -/
structure Note where
  moment : Moment
  function : Callable
  time : Nat

/-! ## Running -/

/-- How calls are run. -/
structure Limits where
  /-- Longer results are cut. -/
  maxResultBytes : Nat
  /-- How long a handler may take, in milliseconds. -/
  timeout : Option Nat
  /-- Arguments are checked against the schema first. -/
  validateArguments : Bool
  /-- Calls run one after the other. -/
  sequential : Bool
deriving DecidableEq, Repr

/-- At most 30000 bytes and a minute, arguments checked, calls side by side. -/
def Limits.default : Limits :=
  ⟨30000, some 60000, true, false⟩

/-- What runs calls. -/
structure Invoker where
  registry : Registry
  policy : Naming.Policy
  limits : Limits
  validator : Schema.Validator

/-- A handler that was entered: the function it belongs to and the arguments it was given. -/
structure Entry where
  function : Callable
  arguments : String

/-- The run of one call. -/
structure Execution where
  /-- When its turn came. -/
  occasion : Occasion
  /-- The handlers that were entered, one after the other. -/
  entries : List Entry
  text : String
  notes : List Note
  /-- When it was over. -/
  finish : Nat

namespace Execution

/-- A call that never entered a handler. -/
def refused (o : Occasion) (complaint : Complaint) : Execution :=
  ⟨o, [], complaint.message, [], o.moment⟩

/-- Enters the handler of a function for a call under a name. -/
def enter (timeout : Option Nat) (o : Occasion) (f : Callable) (fqn arguments : String) :
    Execution :=
  let entry : Entry := ⟨f, arguments⟩
  let now := o.moment
  match f.handler.start o arguments with
  | .error complaint => ⟨o, [entry], complaint.message, [], now⟩
  | .ok (.reply text) => ⟨o, [entry], text, [⟨.run, f, now⟩], now⟩
  | .ok (.pause ms text) =>
    match timeout.filter fun limit => limit < ms with
    | some limit =>
      ⟨o, [entry], (Complaint.timedOut fqn limit).message, [⟨.start, f, now⟩], now + limit⟩
    | none => ⟨o, [entry], text, [⟨.start, f, now⟩, ⟨.finish, f, now + ms⟩], now + ms⟩

@[simp] theorem entries_refused (o : Occasion) (complaint : Complaint) :
    (refused o complaint).entries = [] := rfl

@[simp] theorem notes_refused (o : Occasion) (complaint : Complaint) :
    (refused o complaint).notes = [] := rfl

/-- However a handler fares, it is entered once, with the arguments as they are. -/
@[simp] theorem entries_enter (timeout : Option Nat) (o : Occasion) (f : Callable)
    (fqn arguments : String) : (enter timeout o f fqn arguments).entries = [⟨f, arguments⟩] := by
  unfold enter
  split
  · rfl
  · rfl
  · split <;> rfl

@[simp] theorem occasion_enter (timeout : Option Nat) (o : Occasion) (f : Callable)
    (fqn arguments : String) : (enter timeout o f fqn arguments).occasion = o := by
  unfold enter
  split
  · rfl
  · rfl
  · split <;> rfl

/-- A handler is never done before it is entered. -/
theorem moment_le_finish_enter (timeout : Option Nat) (o : Occasion) (f : Callable)
    (fqn arguments : String) : o.moment ≤ (enter timeout o f fqn arguments).finish := by
  unfold enter
  split
  · exact Nat.le_refl _
  · exact Nat.le_refl _
  · split
    · exact Nat.le_add_right _ _
    · exact Nat.le_add_right _ _

/-- Only the handler that is entered notes anything. -/
theorem function_of_mem_notes_enter {timeout : Option Nat} {o : Occasion} {f : Callable}
    {fqn arguments : String} {note : Note}
    (h : note ∈ (enter timeout o f fqn arguments).notes) : note.function = f := by
  unfold enter at h
  split at h
  · cases h
  · obtain rfl := List.mem_singleton.1 h
    rfl
  · split at h
    · obtain rfl := List.mem_singleton.1 h
      rfl
    · rcases List.mem_cons.1 h with rfl | h
      · rfl
      · obtain rfl := List.mem_singleton.1 h
        rfl

/-- A handler that cannot start gives its complaint. -/
theorem text_enter_of_error {f : Callable} {o : Occasion} {arguments : String}
    {complaint : Complaint} (h : f.handler.start o arguments = .error complaint)
    (timeout : Option Nat) (fqn : String) :
    (enter timeout o f fqn arguments).text = complaint.message := by
  simp only [enter, h]

/-- A handler that is done in time gives its answer. -/
theorem text_enter_of_inTime {f : Callable} {o : Occasion} {arguments : String}
    {activity : Activity} (h : f.handler.start o arguments = .ok activity) {timeout : Option Nat}
    (hin : ∀ limit, timeout = some limit → activity.duration ≤ limit) (fqn : String) :
    (enter timeout o f fqn arguments).text = activity.text := by
  cases activity with
  | reply text => simp only [enter, h, Activity.text]
  | pause ms text =>
    have hnone : timeout.filter (fun limit => decide (limit < ms)) = none := by
      rw [Option.filter_eq_none_iff]
      intro limit hlimit
      have hle : ms ≤ limit := hin limit hlimit
      simpa using hle
    simp only [enter, h, hnone, Activity.text]

/-- A handler that is not gives the word that it took too long. -/
theorem text_enter_of_late {f : Callable} {o : Occasion} {arguments : String}
    {activity : Activity} (h : f.handler.start o arguments = .ok activity) {limit : Nat}
    (hlate : limit < activity.duration) (fqn : String) :
    (enter (some limit) o f fqn arguments).text = (Complaint.timedOut fqn limit).message := by
  cases activity with
  | reply text => exact absurd hlate (Nat.not_lt_zero limit)
  | pause ms text =>
    have hsome : (some limit).filter (fun limit => decide (limit < ms)) = some limit :=
      Option.filter_some_pos (decide_eq_true hlate)
    simp only [enter, h, hsome]

/-- A handler is done in time unless there is a limit and it takes longer. -/
theorem inTime_or_late (timeout : Option Nat) (activity : Activity) :
    (∀ limit, timeout = some limit → activity.duration ≤ limit) ∨
      ∃ limit, timeout = some limit ∧ limit < activity.duration := by
  cases timeout with
  | none => exact Or.inl nofun
  | some limit =>
    rcases Nat.lt_or_ge limit activity.duration with hlate | hin
    · exact Or.inr ⟨limit, rfl, hlate⟩
    · exact Or.inl fun _ h => Option.some.inj h ▸ hin

end Execution

namespace Invoker

/-- The function to enter for a call, or why there is none. -/
def permit (inv : Invoker) (c : Configuration) (call : ParsedCall) : Except Complaint Callable :=
  match call.name.resolve inv.registry with
  | none => .error (.notAvailable call.fqn)
  | some f =>
    if !c.allowAny && !c.isAdvertised inv.registry f then .error (.notOffered call.fqn)
    else if inv.limits.validateArguments then
      match inv.validator.check f.metadata call.arguments with
      | some complaint => .error complaint
      | none => .ok f
    else .ok f

/-- What can become of a call at the gates: the function that it may enter, or the complaint it is
    refused with, and why. -/
inductive Verdict (inv : Invoker) (c : Configuration) (call : ParsedCall) :
    Except Complaint Callable → Prop where
  /-- The name stands for nothing. -/
  | unknown (hfound : call.name.resolve inv.registry = none) :
      Verdict inv c call (.error (.notAvailable call.fqn))
  /-- The function was not offered, and not any may be called. -/
  | withheld {e : Callable} (hfound : call.name.resolve inv.registry = some e)
      (hoffered : c.isAdvertised inv.registry e = false) (hany : c.allowAny = false) :
      Verdict inv c call (.error (.notOffered call.fqn))
  /-- The arguments are at fault, and are checked. -/
  | invalid {e : Callable} {complaint : Complaint}
      (hfound : call.name.resolve inv.registry = some e)
      (hpassed : c.isAdvertised inv.registry e = true ∨ c.allowAny = true)
      (hvalidate : inv.limits.validateArguments = true)
      (hcheck : inv.validator.check e.metadata call.arguments = some complaint) :
      Verdict inv c call (.error complaint)
  /-- All gates are passed. -/
  | passed {e : Callable} (hfound : call.name.resolve inv.registry = some e)
      (hpassed : c.isAdvertised inv.registry e = true ∨ c.allowAny = true)
      (hchecked : inv.limits.validateArguments = true →
        inv.validator.check e.metadata call.arguments = none) :
      Verdict inv c call (.ok e)

/-- Each call meets with one of these. -/
theorem verdict_permit (inv : Invoker) (c : Configuration) (call : ParsedCall) :
    inv.Verdict c call (inv.permit c call) := by
  unfold permit
  split
  next hfound => exact .unknown hfound
  next f hfound =>
    split
    next hwithheld =>
      rw [Bool.and_eq_true_iff, Bool.not_eq_true', Bool.not_eq_true'] at hwithheld
      exact .withheld hfound hwithheld.2 hwithheld.1
    next hopen =>
      have hpassed : c.isAdvertised inv.registry f = true ∨ c.allowAny = true := by
        cases hany : c.allowAny with
        | true => exact Or.inr rfl
        | false => exact Or.inl (by simpa [hany] using hopen)
      split
      next hvalidate =>
        split
        next complaint hcheck => exact .invalid hfound hpassed hvalidate hcheck
        next hcheck => exact .passed hfound hpassed fun _ => hcheck
      next hunchecked =>
        exact .passed hfound hpassed fun hvalidate => absurd hvalidate hunchecked

/-- The reasons exclude each other, so a verdict for which there is one is the one. -/
theorem Verdict.permit_eq {inv : Invoker} {c : Configuration} {call : ParsedCall}
    {verdict : Except Complaint Callable} (h : inv.Verdict c call verdict) :
    inv.permit c call = verdict := by
  have hgate : ∀ e, (c.isAdvertised inv.registry e = true ∨ c.allowAny = true) →
      (!c.allowAny && !c.isAdvertised inv.registry e) = false := by
    rintro e (hoffered | hany)
    · rw [hoffered, Bool.not_true, Bool.and_false]
    · rw [hany, Bool.not_true, Bool.false_and]
  cases h with
  | unknown hfound => simp only [permit, hfound]
  | withheld hfound hoffered hany =>
    simp only [permit, hfound, hoffered, hany]
    rfl
  | invalid hfound hpassed hvalidate hcheck =>
    simp only [permit, hfound, hgate _ hpassed, hvalidate, hcheck]
    rfl
  | passed hfound hpassed hchecked =>
    simp only [permit, hfound, hgate _ hpassed, Bool.false_eq_true, if_false]
    split
    next hvalidate => simp only [hchecked hvalidate]
    next => rfl

/-- A function is permitted exactly when the call passes all gates on the way to it. -/
theorem permit_eq_ok_iff {inv : Invoker} {c : Configuration} {call : ParsedCall} {e : Callable} :
    inv.permit c call = .ok e ↔
      call.name.resolve inv.registry = some e ∧
      (c.isAdvertised inv.registry e = true ∨ c.allowAny = true) ∧
      (inv.limits.validateArguments = true →
        inv.validator.check e.metadata call.arguments = none) := by
  constructor
  · intro h
    have hverdict := inv.verdict_permit c call
    rw [h] at hverdict
    cases hverdict with
    | passed hfound hpassed hchecked => exact ⟨hfound, hpassed, hchecked⟩
  · rintro ⟨hfound, hpassed, hchecked⟩
    exact (Verdict.passed hfound hpassed hchecked).permit_eq

/-- Runs one call.  Only what comes out of a handler is cut to size. -/
def execute (inv : Invoker) (c : Configuration) (o : Occasion) (call : ParsedCall) : Execution :=
  match inv.permit c call with
  | .error complaint => .refused o complaint
  | .ok f =>
    let run := Execution.enter inv.limits.timeout o f call.fqn call.arguments
    { run with text := truncate inv.limits.maxResultBytes run.text }

/-- A call that is permitted is told what leaves the handler, cut to size. -/
theorem text_execute_of_permit {inv : Invoker} {c : Configuration} {call : ParsedCall}
    {f : Callable} (h : inv.permit c call = .ok f) (o : Occasion) :
    (inv.execute c o call).text = truncate inv.limits.maxResultBytes
      (Execution.enter inv.limits.timeout o f call.fqn call.arguments).text := by
  simp only [execute, h]

/-- A call that is not is told why. -/
theorem execute_of_refused {inv : Invoker} {c : Configuration} {call : ParsedCall}
    {complaint : Complaint} (h : inv.permit c call = .error complaint) (o : Occasion) :
    inv.execute c o call = .refused o complaint := by
  simp only [execute, h]

@[simp] theorem occasion_execute (inv : Invoker) (c : Configuration) (o : Occasion)
    (call : ParsedCall) : (inv.execute c o call).occasion = o := by
  unfold execute
  split
  · rfl
  · exact Execution.occasion_enter _ _ _ _ _

theorem moment_le_finish_execute (inv : Invoker) (c : Configuration) (o : Occasion)
    (call : ParsedCall) : o.moment ≤ (inv.execute c o call).finish := by
  unfold execute
  split
  · exact Nat.le_refl _
  · exact Execution.moment_le_finish_enter _ _ _ _ _

/-- Runs calls one after the other, the first of them on the occasion given. -/
def executeInTurn (inv : Invoker) (c : Configuration) : Occasion → List ParsedCall → List Execution
  | _, [] => []
  | o, call :: calls =>
    let run := inv.execute c o call
    run :: inv.executeInTurn c ⟨run.finish, o.place + 1⟩ calls

/-- Runs calls side by side. -/
def executeTogether (inv : Invoker) (c : Configuration) (now : Nat) (calls : List ParsedCall) :
    List Execution :=
  calls.mapIdx fun place call => inv.execute c ⟨now, place⟩ call

/-- Whether the calls run one after the other. -/
def inTurn (inv : Invoker) (calls : List ParsedCall) : Bool :=
  inv.limits.sequential || calls.length ≤ 1

/-- Runs calls, one execution for each. -/
def executions (inv : Invoker) (c : Configuration) (now : Nat) (calls : List ParsedCall) :
    List Execution :=
  if inv.inTurn calls then inv.executeInTurn c ⟨now, 0⟩ calls else inv.executeTogether c now calls

/-- What a call enters is what it is permitted to enter, with its arguments. -/
theorem entries_execute (inv : Invoker) (c : Configuration) (o : Occasion) (call : ParsedCall) :
    (inv.execute c o call).entries =
      match inv.permit c call with
      | .error _ => []
      | .ok f => [⟨f, call.arguments⟩] := by
  unfold execute
  split <;> simp

/-- Whatever is noted in the run of a call is noted by a handler that was entered. -/
theorem exists_entry_of_mem_notes_execute {inv : Invoker} {c : Configuration} {o : Occasion}
    {call : ParsedCall} {note : Note} (h : note ∈ (inv.execute c o call).notes) :
    ∃ entry ∈ (inv.execute c o call).entries, entry.function = note.function := by
  unfold execute at h ⊢
  split at h
  · simp at h
  next f hok =>
    refine ⟨⟨f, call.arguments⟩, by simp, ?_⟩
    exact (Execution.function_of_mem_notes_enter h).symm

/-- In turn, each call is run at its place, once those before it are over. -/
theorem exists_moment_executeInTurn (inv : Invoker) (c : Configuration) (o : Occasion)
    (calls : List ParsedCall) (i : Nat) :
    ∃ moment, o.moment ≤ moment ∧ (inv.executeInTurn c o calls)[i]? =
      calls[i]?.map (inv.execute c ⟨moment, o.place + i⟩) := by
  induction calls generalizing o i with
  | nil => exact ⟨o.moment, Nat.le_refl _, by simp [executeInTurn]⟩
  | cons call calls ih =>
    cases i with
    | zero => exact ⟨o.moment, Nat.le_refl _, by simp [executeInTurn]⟩
    | succ i =>
      obtain ⟨moment, hle, hrun⟩ := ih ⟨(inv.execute c o call).finish, o.place + 1⟩ i
      refine ⟨moment, Nat.le_trans (inv.moment_le_finish_execute c o call) hle, ?_⟩
      have hplace : o.place + (i + 1) = o.place + 1 + i := by omega
      simpa [executeInTurn, hplace] using hrun

/-- However calls are run, there is one run for each, at its place and from some moment on. -/
theorem exists_moment_executions (inv : Invoker) (c : Configuration) (now : Nat)
    (calls : List ParsedCall) (i : Nat) :
    ∃ moment, now ≤ moment ∧ (inv.executions c now calls)[i]? =
      calls[i]?.map (inv.execute c ⟨moment, i⟩) := by
  unfold executions
  split
  · simpa using exists_moment_executeInTurn inv c ⟨now, 0⟩ calls i
  · exact ⟨now, Nat.le_refl _, by simp [executeTogether]⟩

theorem length_executions (inv : Invoker) (c : Configuration) (now : Nat)
    (calls : List ParsedCall) : (inv.executions c now calls).length = calls.length := by
  have hturn : ∀ o, (inv.executeInTurn c o calls).length = calls.length := by
    induction calls with
    | nil => exact fun _ => rfl
    | cons call calls ih =>
      intro o
      rw [executeInTurn, List.length_cons, ih, List.length_cons]
  unfold executions
  split
  · exact hturn ⟨now, 0⟩
  · exact List.length_mapIdx

end Invoker

/-! ## The calls of one message -/

/-- What became of the calls of one message, what the handlers noted, and when it was over. -/
structure Batch where
  outcome : Outcome
  /-- The runs of the calls, one for each; none when the calls are left to the host. -/
  runs : List Execution
  notes : List Note
  finish : Nat

/-- Everything that was noted, in the order of time; of notes of one moment, those of earlier
    calls come first. -/
def notesInOrder (runs : List Execution) : List Note :=
  (runs.flatMap Execution.notes).mergeSort fun a b => a.time ≤ b.time

/-- When the last of several runs was over; the moment given if there are none. -/
def lastFinish (now : Nat) (runs : List Execution) : Nat :=
  runs.foldl (fun latest run => max latest run.finish) now

/-- Whether a run is that of the call at a place in a batch, and what it came to is the result that
    the outcome has for the call. -/
structure Batch.Answers (b : Batch) (i : Nat) (call : ToolCall) (run : Execution) : Prop where
  ran : b.runs[i]? = some run
  answered : ∃ results, b.outcome = .invoked results ∧
    results[i]? = some ⟨call.id, call.function.name, run.text⟩

/-- The result of a call that was run. -/
def resultOf (call : ParsedCall) (run : Execution) : CallResult :=
  ⟨call.id, call.fqn, run.text⟩

/-- Deals with the calls of one message, from a moment on. -/
def Invoker.invoke (inv : Invoker) (c : Configuration) (now : Nat) (calls : List ToolCall) :
    Batch :=
  let calls := calls.map (ParsedCall.ofToolCall inv.policy (some inv.registry))
  if c.autoInvoke then
    let runs := inv.executions c now calls
    ⟨.invoked (calls.zipWith resultOf runs), runs, notesInOrder runs, lastFinish now runs⟩
  else ⟨.manual calls, [], [], now⟩

namespace Invoker

/-- Calls that are left to the host are not run. -/
theorem runs_invoke_of_manual {c : Configuration} (h : c.autoInvoke = false) (inv : Invoker)
    (now : Nat) (calls : List ToolCall) : (inv.invoke c now calls).runs = [] := by
  simp [invoke, h]

/-- Calls that are not left to the host are each run once, at its place. -/
theorem exists_moment_runs_invoke {c : Configuration} (h : c.autoInvoke = true) (inv : Invoker)
    (now : Nat) (calls : List ToolCall) (i : Nat) :
    ∃ moment, now ≤ moment ∧ (inv.invoke c now calls).runs[i]? =
      calls[i]?.map fun call =>
        inv.execute c ⟨moment, i⟩ (.ofToolCall inv.policy (some inv.registry) call) := by
  obtain ⟨moment, hle, hrun⟩ := exists_moment_executions inv c now
    (calls.map (ParsedCall.ofToolCall inv.policy (some inv.registry))) i
  refine ⟨moment, hle, ?_⟩
  simp only [invoke, h, if_true, hrun, List.getElem?_map, Option.map_map]
  rfl

/-- Each of these calls comes to one result, which is told what its run came to. -/
theorem exists_results_of_auto {c : Configuration} (h : c.autoInvoke = true) (inv : Invoker)
    (now : Nat) (calls : List ToolCall) :
    ∃ results, (inv.invoke c now calls).outcome = .invoked results ∧
      results.length = calls.length ∧
      ∀ (i : Nat) (call : ToolCall), calls[i]? = some call →
        ∃ moment run, now ≤ moment ∧
          run = inv.execute c ⟨moment, i⟩ (.ofToolCall inv.policy (some inv.registry) call) ∧
          (inv.invoke c now calls).runs[i]? = some run ∧
          results[i]? = some ⟨call.id, call.function.name, run.text⟩ := by
  let parsed := calls.map (ParsedCall.ofToolCall inv.policy (some inv.registry))
  have houtcome : (inv.invoke c now calls).outcome =
      .invoked (parsed.zipWith resultOf (inv.invoke c now calls).runs) := by
    simp only [invoke, h, if_true, parsed]
  have hlength : (inv.invoke c now calls).runs.length = calls.length := by
    simp only [invoke, h, if_true, length_executions, List.length_map]
  refine ⟨_, houtcome, ?_, ?_⟩
  · rw [List.length_zipWith, hlength, List.length_map, Nat.min_self]
  · intro i call hcall
    obtain ⟨moment, hle, hrun⟩ := exists_moment_runs_invoke h inv now calls i
    rw [hcall, Option.map_some] at hrun
    refine ⟨moment, _, hle, rfl, hrun, ?_⟩
    have hparsed : parsed[i]? = some (.ofToolCall inv.policy (some inv.registry) call) := by
      rw [List.getElem?_map, hcall, Option.map_some]
    rw [List.getElem?_zipWith, hparsed, hrun]
    rfl

/-- The notes of a batch are those of its runs. -/
theorem notes_invoke (inv : Invoker) (c : Configuration) (now : Nat) (calls : List ToolCall) :
    (inv.invoke c now calls).notes = notesInOrder (inv.invoke c now calls).runs := by
  unfold invoke
  split
  · rfl
  · simp [notesInOrder]

/-- The call at a place is answered with what its run comes to. -/
theorem exists_answers_of_auto {c : Configuration} (h : c.autoInvoke = true) (inv : Invoker)
    (now : Nat) {calls : List ToolCall} {i : Nat} {call : ToolCall}
    (hcall : calls[i]? = some call) :
    ∃ moment, now ≤ moment ∧ (inv.invoke c now calls).Answers i call
      (inv.execute c ⟨moment, i⟩ (.ofToolCall inv.policy (some inv.registry) call)) := by
  obtain ⟨results, houtcome, -, hall⟩ := exists_results_of_auto h inv now calls
  obtain ⟨moment, run, hle, rfl, hrun, hresult⟩ := hall i call hcall
  exact ⟨moment, hle, hrun, results, houtcome, hresult⟩

/-- Calls that are left to the host are handed back as they were read. -/
theorem outcome_invoke_of_manual {c : Configuration} (h : c.autoInvoke = false) (inv : Invoker)
    (now : Nat) (calls : List ToolCall) :
    (inv.invoke c now calls).outcome =
      .manual (calls.map (ParsedCall.ofToolCall inv.policy (some inv.registry))) := by
  simp [invoke, h]

/-- What is noted in a batch is noted in one of its runs. -/
theorem exists_run_of_mem_notes {inv : Invoker} {c : Configuration} {now : Nat}
    {calls : List ToolCall} {note : Note} (h : note ∈ (inv.invoke c now calls).notes) :
    ∃ run ∈ (inv.invoke c now calls).runs, note ∈ run.notes := by
  rw [notes_invoke, notesInOrder, List.mem_mergeSort] at h
  exact List.mem_flatMap.1 h

end Invoker

end FunctionCalling
