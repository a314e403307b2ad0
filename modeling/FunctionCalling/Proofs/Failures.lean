/-
  Which results say that a call failed.

  Results are texts, and what tells a failure from an answer is the mark `Error:` at the beginning
  (`isError`).  A call fails when no handler is run to the end for it.  That is so in one of six
  ways (`Invoker.Fails`).  Three of them are refusals (`Invoker.Verdict`): the name stands for no
  function, the function was not offered, or the arguments do not pass the check.  In the others a
  handler is reached: it cannot read the arguments, the function is only declared, or it takes too
  long.

  In each of them there is a complaint, and every complaint begins with the mark.  But what leaves
  a handler is cut to size, complaints included, and the crux is what is left of the mark:

  1. a limit of at least the size of the mark leaves it whole;
  2. a smaller one cuts into it, and the notice that follows does not complete it, for the notice
     begins with a full stop and the mark holds none (`Text.prefix_clipChars_append_iff`).

  Refusals never reach a handler and are not cut.  So a failure goes unmarked exactly when its
  complaint left a handler and the limit is smaller than the mark.
-/
import FunctionCalling.Proofs.ResultSizes

namespace FunctionCalling

open FunctionCalling.Choice (Configuration)
open FunctionCalling.Text

/-! ## What cutting leaves of a beginning -/

namespace Text

/-- What is left of a text, followed by something that begins with a character that `lead` does not
    hold, begins with `lead` exactly when all of `lead` is left. -/
theorem prefix_clipChars_append_iff {stop : Char} {lead : List Char} (h : stop ∉ lead) (max : Nat)
    (s after : List Char) :
    lead <+: clipChars max (lead ++ s) ++ stop :: after ↔ String.utf8Len lead ≤ max := by
  -- by induction on the beginning: each character is left or is where the cut is
  induction lead generalizing max with
  | nil => simp
  | cons c lead ih =>
    have hstop : stop ∉ lead := fun hmem => h (List.mem_cons_of_mem c hmem)
    have hc : c ≠ stop := fun heq => h (heq ▸ List.mem_cons_self)
    rw [List.cons_append, clipChars, String.utf8Len_cons]
    by_cases hfits : c.utf8Size ≤ max
    · rw [if_pos hfits, List.cons_append, List.cons_prefix_cons, ih hstop]
      constructor
      · rintro ⟨-, hrest⟩
        omega
      · intro hall
        exact ⟨rfl, by omega⟩
    · rw [if_neg hfits, List.nil_append, List.cons_prefix_cons]
      constructor
      · rintro ⟨heq, -⟩
        exact absurd heq hc
      · intro hall
        omega

theorem exists_toList_truncationNotice (total : Nat) :
    ∃ after, (truncationNotice total).toList = '.' :: after := by
  have hhead : (truncationNotice total).toList.head? = some '.' :=
    head?_toList_append (head?_toList_append (by decide))
  exact List.head?_eq_some_iff.1 hhead

end Text

/-! ## The mark of a failure -/

theorem isError_iff {result : String} :
    isError result = true ↔ "Error:".toList <+: result.toList :=
  List.isPrefixOf_iff_prefix

namespace Complaint

/-- A complaint is the mark and more. -/
theorem toList_message (c : Complaint) :
    c.message.toList = "Error:".toList ++ ' ' :: c.body.toList := by
  have hlead : "Error: ".toList = "Error:".toList ++ [' '] := by decide
  calc c.message.toList = "Error: ".toList ++ c.body.toList := String.toList_append
    _ = "Error:".toList ++ ' ' :: c.body.toList := by
      rw [hlead, List.append_assoc, List.singleton_append]

theorem utf8ByteSize_mark_lt (c : Complaint) :
    "Error:".utf8ByteSize < c.message.utf8ByteSize := by
  have hlead : "Error: ".utf8ByteSize = "Error:".utf8ByteSize + 1 := by decide
  rw [message, String.utf8ByteSize_append, hlead]
  omega

/-- **What is left of a complaint reports a failure exactly when there is room for the mark.** -/
theorem isError_truncate_message_iff (c : Complaint) (max : Nat) :
    isError (truncate max c.message) = true ↔ "Error:".utf8ByteSize ≤ max := by
  unfold truncate
  split
  next hfits =>
    have hmark := c.utf8ByteSize_mark_lt
    refine iff_of_true c.isError_message ?_
    omega
  next hlong =>
    obtain ⟨after, hafter⟩ := exists_toList_truncationNotice c.message.utf8ByteSize
    have hmark : '.' ∉ "Error:".toList := by decide
    have hclip : (clip max c.message).toList = clipChars max c.message.toList :=
      String.toList_ofList
    rw [isError_iff, String.toList_append, hafter, hclip, toList_message]
    exact prefix_clipChars_append_iff hmark max _ after

end Complaint

/-! ## Calls that fail -/

namespace Invoker

/-- A call for which a handler that is entered on an occasion is run to the end, with what it
    does. -/
structure Completes (inv : Invoker) (c : Configuration) (o : Occasion) (call : ToolCall)
    (activity : Activity) : Prop where
  /-- Some function is permitted and starts with the arguments. -/
  started : ∃ e, inv.Permits c call e ∧
    e.handler.start o call.function.arguments = .ok activity
  /-- It takes no longer than it may. -/
  inTime : ∀ limit, inv.limits.timeout = some limit → activity.duration ≤ limit

/-- How a call fails on an occasion, with the complaint about it. -/
inductive Fails (inv : Invoker) (c : Configuration) (o : Occasion) (call : ToolCall) :
    Complaint → Prop where
  /-- It is refused: its name stands for no function, the function was not offered, or the
      arguments are no JSON or break the schema. -/
  | refused {complaint : Complaint}
      (hverdict : inv.Verdict c (.ofToolCall inv.policy (some inv.registry) call)
        (.error complaint)) :
      Fails inv c o call complaint
  /-- The handler cannot read the arguments. -/
  | unreadable {e : Callable} {run : Occasion → String → Except String Activity} {reason : String}
      (hpermits : inv.Permits c call e) (hhandler : e.handler = .implemented run)
      (hrun : run o call.function.arguments = .error reason) :
      Fails inv c o call (.notReadable reason)
  /-- The function is only declared. -/
  | unimplemented {e : Callable} {name : String} (hpermits : inv.Permits c call e)
      (hhandler : e.handler = .declared name) : Fails inv c o call (.notImplemented name)
  /-- The handler takes longer than it may. -/
  | late {e : Callable} {activity : Activity} {limit : Nat} (hpermits : inv.Permits c call e)
      (hstart : e.handler.start o call.function.arguments = .ok activity)
      (hlimit : inv.limits.timeout = some limit) (hlate : limit < activity.duration) :
      Fails inv c o call (.timedOut call.function.name limit)

variable {inv : Invoker} {c : Configuration} {o : Occasion} {call : ToolCall}

/-- A handler that cannot start either is none or cannot read its arguments. -/
theorem fails_of_start_error {e : Callable} (hpermits : inv.Permits c call e)
    {complaint : Complaint} (h : e.handler.start o call.function.arguments = .error complaint) :
    inv.Fails c o call complaint := by
  cases hhandler : e.handler with
  | declared name =>
    rw [hhandler] at h
    obtain rfl := Except.error.inj h
    exact .unimplemented hpermits hhandler
  | implemented run =>
    rw [hhandler, Handler.start] at h
    cases hrun : run o call.function.arguments with
    | ok activity =>
      rw [hrun] at h
      cases h
    | error reason =>
      rw [hrun] at h
      obtain rfl := Except.error.inj h
      exact .unreadable hpermits hhandler hrun

/-- **A call fails unless a handler is run to the end for it.** -/
theorem exists_fails_of_not_completes (hauto : c.autoInvoke = true)
    (h : ∀ activity, ¬ inv.Completes c o call activity) :
    ∃ complaint, inv.Fails c o call complaint := by
  have hverdict := inv.verdict_permit c (.ofToolCall inv.policy (some inv.registry) call)
  cases hpermit : inv.permit c (.ofToolCall inv.policy (some inv.registry) call) with
  | error complaint =>
    rw [hpermit] at hverdict
    exact ⟨complaint, .refused hverdict⟩
  | ok e =>
    have hpermits : inv.Permits c call e := (permits_iff hauto).2 hpermit
    cases hstart : e.handler.start o call.function.arguments with
    | error complaint => exact ⟨complaint, fails_of_start_error hpermits hstart⟩
    | ok activity =>
      rcases Execution.inTime_or_late inv.limits.timeout activity with hin | ⟨limit, hlimit, hlate⟩
      · exact absurd ⟨⟨e, hpermits, hstart⟩, hin⟩ (h activity)
      · exact ⟨_, .late hpermits hstart hlimit hlate⟩

/-- What a handler gives that is entered for a permitted call is what the call is told, cut to
    size. -/
theorem text_execute_of_permits {e : Callable} (hpermits : inv.Permits c call e) {text : String}
    (htext : (Execution.enter inv.limits.timeout o e call.function.name
      call.function.arguments).text = text) :
    (inv.execute c o (.ofToolCall inv.policy (some inv.registry) call)).text =
      truncate inv.limits.maxResultBytes text :=
  (text_execute_of_permit ((permits_iff hpermits.auto).1 hpermits) o).trans
    (congrArg (truncate inv.limits.maxResultBytes) htext)

/-- The complaint about a call that fails is its result: uncut when no handler was reached, and cut
    to size when the complaint left a handler. -/
theorem text_execute_of_fails (hauto : c.autoInvoke = true) {complaint : Complaint}
    (h : inv.Fails c o call complaint) :
    let text := (inv.execute c o (.ofToolCall inv.policy (some inv.registry) call)).text
    ((∀ e, ¬ inv.Permits c call e) ∧ text = complaint.message) ∨
      ((∃ e, inv.Permits c call e) ∧
        text = truncate inv.limits.maxResultBytes complaint.message) := by
  intro text
  cases h with
  | refused hverdict =>
    refine Or.inl ⟨?_, text_execute_of_refused hverdict.permit_eq o⟩
    intro e hpermits
    cases hverdict.permit_eq.symm.trans ((permits_iff hauto).1 hpermits)
  | unreadable hpermits hhandler hrun =>
    refine Or.inr ⟨⟨_, hpermits⟩, text_execute_of_permits hpermits ?_⟩
    refine Execution.text_enter_of_error ?_ _ _
    rw [hhandler, Handler.start, hrun]
    rfl
  | unimplemented hpermits hhandler =>
    refine Or.inr ⟨⟨_, hpermits⟩, text_execute_of_permits hpermits ?_⟩
    refine Execution.text_enter_of_error ?_ _ _
    rw [hhandler, Handler.start]
  | late hpermits hstart hlimit hlate =>
    refine Or.inr ⟨⟨_, hpermits⟩, text_execute_of_permits hpermits ?_⟩
    rw [hlimit]
    exact Execution.text_enter_of_late hstart hlate call.function.name

/-- The result of a call for which a handler is run to the end is its answer, cut to size. -/
theorem text_execute_of_completes {activity : Activity} (h : inv.Completes c o call activity) :
    (inv.execute c o (.ofToolCall inv.policy (some inv.registry) call)).text =
      truncate inv.limits.maxResultBytes activity.text := by
  obtain ⟨e, hpermits, hstart⟩ := h.started
  exact text_execute_of_permits hpermits
    (Execution.text_enter_of_inTime hstart h.inTime call.function.name)

end Invoker

/-- **A failure goes unmarked only when its complaint left a handler and there is no room for the
    mark.**  When calls are run, whatever validator checks their arguments and however their
    handlers go by the occasion, there is a result for each, and with the occasion on which the
    call was run

    1. the result of a call for which a handler is run to the end is its answer, cut to size;
    2. a call for which none is fails in some way, and its result is the complaint about that, or
       what is left of the complaint;
    3. such a result reports a failure exactly when no handler was reached or the limit leaves room
       for the mark. -/
theorem failure_marked_iff (inv : Invoker) {c : Configuration} (hauto : c.autoInvoke = true)
    (now : Nat) (calls : List ToolCall) :
    ∃ results, (inv.invoke c now calls).outcome = .invoked results ∧
      results.length = calls.length ∧
      ∀ (i : Nat) (call : ToolCall) (result : CallResult), calls[i]? = some call →
        results[i]? = some result →
        ∃ run, (inv.invoke c now calls).runs[i]? = some run ∧ result.text = run.text ∧
          (∀ activity, inv.Completes c run.occasion call activity →
            result.text = truncate inv.limits.maxResultBytes activity.text) ∧
          ((∀ activity, ¬ inv.Completes c run.occasion call activity) →
            (∃ complaint, inv.Fails c run.occasion call complaint ∧
              (result.text = complaint.message ∨
                result.text = truncate inv.limits.maxResultBytes complaint.message)) ∧
            (isError result.text = true ↔
              (∀ e, ¬ inv.Permits c call e) ∨
                "Error:".utf8ByteSize ≤ inv.limits.maxResultBytes)) := by
  obtain ⟨results, houtcome, hlength, hall⟩ := Invoker.exists_results_of_auto hauto inv now calls
  refine ⟨results, houtcome, hlength, ?_⟩
  intro i call result hcall hresult
  obtain ⟨moment, run, -, rfl, hrun, hi⟩ := hall i call hcall
  obtain rfl := Option.some.inj (hresult.symm.trans hi)
  refine ⟨_, hrun, rfl, ?_, ?_⟩
  · intro activity hcompletes
    rw [Invoker.occasion_execute] at hcompletes
    exact Invoker.text_execute_of_completes hcompletes
  · rw [Invoker.occasion_execute]
    intro hnever
    obtain ⟨complaint, hfails⟩ := Invoker.exists_fails_of_not_completes hauto hnever
    rcases Invoker.text_execute_of_fails hauto hfails with ⟨hrefused, htext⟩ | ⟨hentered, htext⟩
    · refine ⟨⟨complaint, hfails, Or.inl htext⟩, iff_of_true ?_ (Or.inl hrefused)⟩
      rw [htext]
      exact complaint.isError_message
    · refine ⟨⟨complaint, hfails, Or.inr htext⟩, ?_⟩
      have hpermitted : ¬ ∀ e, ¬ inv.Permits c call e := not_forall_not.2 hentered
      rw [htext, complaint.isError_truncate_message_iff, or_iff_right hpermitted]

/-! ## At the size of the mark -/

/-- A function that pauses for some milliseconds before it answers. -/
def Draft.sleeper (name : String) (milliseconds : Nat) (answer : String) : Draft :=
  ⟨⟨none, name, "", Metadata.anyObject⟩, .implemented fun _ _ => .ok (.pause milliseconds answer)⟩

/-- A plugin with a function that takes a second, one that answers at once, and one that is only
    declared. -/
def Registry.paced : Registry :=
  (Registration.start.run
    [.addFunctions "Tools" [.sleeper "Slow" 1000 "done", .echo "Quick",
      .declared ⟨none, "Later", "", Metadata.anyObject⟩]]).registry

/-- A limit of 6 bytes and half a second: what is left of the word that a call took too long is the
    mark. -/
theorem failure_marked_iff_six :
    let inv : Invoker := ⟨.paced, .default, ⟨6, some 500, true, false⟩, .builtIn⟩
    let c : Configuration := ⟨.auto, Registry.paced.functions, true, false⟩
    let call : ToolCall := .ofFunction "1" "Tools-Slow" "\x7b\x7d"
    (∀ o activity, ¬ inv.Completes c o call activity) ∧
      ∃ result, (inv.invoke c 0 [call]).outcome = .invoked [result] ∧
        result.text = "Error:...\n[truncated: 55 bytes total]" ∧ isError result.text = true := by
  intro inv c call
  have hresolves : Naming.Policy.default.resolve "Tools-Slow" .paced =
      some (.ofMember 0 "Tools" (.sleeper "Slow" 1000 "done")) := rfl
  have hnever : ∀ o activity, ¬ inv.Completes c o call activity := by
    rintro o activity ⟨⟨e, hpermits, hstart⟩, hin⟩
    obtain rfl := Option.some.inj (hresolves.symm.trans hpermits.resolves)
    obtain rfl := Except.ok.inj hstart
    exact absurd (hin 500 rfl) (by decide)
  have houtcome : (inv.invoke c 0 [call]).outcome =
      .invoked [⟨"1", "Tools-Slow", "Error:...\n[truncated: 55 bytes total]"⟩] := by
    decide +kernel
  obtain ⟨results, hresults, -, hall⟩ := failure_marked_iff inv (c := c) rfl 0 [call]
  obtain rfl := Outcome.invoked.inj (houtcome.symm.trans hresults)
  obtain ⟨run, -, -, -, hfailed⟩ := hall 0 call _ rfl rfl
  refine ⟨hnever, _, houtcome, rfl, ?_⟩
  exact (hfailed (hnever run.occasion)).2.2 (Or.inr (by decide))

/-- A limit of 5 bytes cuts into the mark: the call fails, and its result does not report it. -/
theorem failure_unmarked :
    let inv : Invoker := ⟨.paced, .default, ⟨5, some 500, true, false⟩, .builtIn⟩
    let c : Configuration := ⟨.auto, Registry.paced.functions, true, false⟩
    let call : ToolCall := .ofFunction "1" "Tools-Slow" "\x7b\x7d"
    (∀ o, inv.Fails c o call (.timedOut "Tools-Slow" 500)) ∧
      ∃ result, (inv.invoke c 0 [call]).outcome = .invoked [result] ∧
        isError result.text = false := by
  intro inv c call
  have hchecked : (Schema.Validator.builtIn.check
      (Callable.ofMember 0 "Tools" (.sleeper "Slow" 1000 "done")).metadata "\x7b\x7d").isNone =
        true := by
    decide +kernel
  have hresolves : Naming.Policy.default.resolve "Tools-Slow" .paced =
      some (.ofMember 0 "Tools" (.sleeper "Slow" 1000 "done")) := rfl
  have hpermits : inv.Permits c call (.ofMember 0 "Tools" (.sleeper "Slow" 1000 "done")) :=
    ⟨rfl, hresolves, Or.inl (by decide), fun _ => Option.isNone_iff_eq_none.1 hchecked⟩
  have houtcome : (inv.invoke c 0 [call]).outcome =
      .invoked [⟨"1", "Tools-Slow", "Error...\n[truncated: 55 bytes total]"⟩] := by
    decide +kernel
  exact ⟨fun _ => .late hpermits rfl rfl (by decide), _, houtcome, by decide⟩

end FunctionCalling
