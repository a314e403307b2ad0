/-
  What is offered can be called.

  A model is offered the functions of a configuration under the names that the policy builds, and
  calls them by these names.  Four things have to agree for such a call to be run: the check that
  the registry holds everything that is offered, the way names are built, the way they are read,
  and the check that what was found has been offered.

  1. A configuration under which calls are run offers only what the registry holds by name
     (`exists_entry?_of_configuration`), though the functions offered may be others than those
     of the registry.
  2. The name built for such a function is read back to what the registry holds
     (`PolicySettings.resolve_fqn`), and this counts as offered (`isAdvertised_of_entry?`).
  3. A call of a function that was found and was offered gets through (`Execution.GetsThrough`): it
     is told what the handler gives, or what is wrong with its arguments, and nothing else
     (`Invoker.exists_getsThrough`).
-/
import FunctionCalling.Proofs.RoundTrip
import FunctionCalling.Proofs.Safety

namespace FunctionCalling

open FunctionCalling.Choice (Behavior Configuration)
open FunctionCalling.Text

/-- When calls are to be run, the registry holds every function that is offered. -/
theorem Choice.Behavior.exists_entry?_of_configuration {b : Behavior} {r : Registry}
    {history : History} {c : Configuration} (hc : b.configuration (some r) history = .ok c)
    (hauto : c.autoInvoke = true) {f : Callable} (hf : f ∈ c.functions) :
    ∃ e, r.entry? f.metadata = some e := by
  obtain ⟨hcheck, rfl⟩ := Behavior.configuration_eq_ok_iff.1 hc
  obtain ⟨r', hr', hall⟩ := Behavior.checkInvocable_eq_ok_iff.1 (hcheck hauto)
  obtain rfl : r = r' := Option.some.inj hr'
  exact Option.isSome_iff_exists.1 (hall f hf)

/-! ## Calls that get through -/

/-- Arguments are faulted for what they are, never for the function. -/
theorem Schema.Validator.complaint_of_check {validator : Schema.Validator} {m : Metadata}
    {arguments : String} {complaint : Complaint}
    (h : validator.check m arguments = some complaint) :
    (∃ fault, complaint = .notJson m.qualifiedName fault) ∨
      ∃ findings, complaint = .notValid m.qualifiedName findings := by
  unfold check at h
  split at h
  next fault _ => exact Or.inl ⟨fault, (Option.some.inj h).symm⟩
  next v _ =>
    right
    split at h
    · cases h
    · split at h
      · cases h
      next found _ => exact ⟨_, (Option.some.inj h).symm⟩

/-- Whatever is wrong with arguments, it is not worded as if there were no such function, or as if
    it had not been offered. -/
theorem Schema.Validator.message_ne_of_check {validator : Schema.Validator} {m : Metadata}
    {arguments : String} {complaint : Complaint}
    (h : validator.check m arguments = some complaint) (fqn : String) :
    complaint.message ≠ (Complaint.notAvailable fqn).message ∧
      complaint.message ≠ (Complaint.notOffered fqn).message := by
  have havailable : (Complaint.notAvailable fqn).body.toList.head? = some 'f' :=
    head?_toList_append (head?_toList_append (by decide))
  have hoffered : (Complaint.notOffered fqn).body.toList.head? = some 'f' :=
    head?_toList_append (head?_toList_append (by decide))
  have hfault : ∃ a, complaint.body.toList.head? = some a ∧ a ≠ 'f' := by
    rcases complaint_of_check h with ⟨fault, rfl⟩ | ⟨findings, rfl⟩
    · exact ⟨'i', head?_toList_append (head?_toList_append (head?_toList_append
        (head?_toList_append (by decide)))), by decide⟩
    · exact ⟨'a', head?_toList_append (head?_toList_append (head?_toList_append
        (head?_toList_append (by decide)))), by decide⟩
  obtain ⟨a, hbegins, hne⟩ := hfault
  exact ⟨Complaint.message_ne_of_head? hbegins havailable hne,
    Complaint.message_ne_of_head? hbegins hoffered hne⟩

/-- A run of a call of a function that gets through all that is asked of names. -/
inductive Execution.GetsThrough (run : Execution) (inv : Invoker) (e : Callable) (call : ToolCall) :
    Prop where
  /-- The handler is entered, once and with the arguments of the call, which is told what the
      handler gives, cut to size. -/
  | entered {text : String} (hentries : run.entries = [⟨e, call.function.arguments⟩])
      (hgives : e.handler.Gives inv.limits.timeout call.function.name run.occasion
        call.function.arguments text)
      (htext : run.text = truncate inv.limits.maxResultBytes text)
  /-- The arguments are at fault, and the call is told how; that is not what is said of a function
      that is not available or was not offered. -/
  | faulted {complaint : Complaint} (hvalidate : inv.limits.validateArguments = true)
      (hcheck : inv.validator.check e.metadata call.function.arguments = some complaint)
      (hentries : run.entries = []) (htext : run.text = complaint.message)
      (hother : ∀ fqn, run.text ≠ (Complaint.notAvailable fqn).message ∧
        run.text ≠ (Complaint.notOffered fqn).message)

namespace Invoker

/-- A call of a function that was found, and was offered or need not be, gets through. -/
theorem exists_getsThrough (inv : Invoker) {c : Configuration} (hauto : c.autoInvoke = true)
    {e : Callable} (hpassed : c.isAdvertised inv.registry e = true ∨ c.allowAny = true) (now : Nat)
    {calls : List ToolCall} {i : Nat} {call : ToolCall} (hcall : calls[i]? = some call)
    (hresolves : inv.policy.resolve call.function.name inv.registry = some e) :
    ∃ run, (inv.invoke c now calls).Answers i call run ∧ run.GetsThrough inv e call := by
  by_cases hchecked : inv.limits.validateArguments = true →
      inv.validator.check e.metadata call.function.arguments = none
  · have hpermits : inv.Permits c call e := ⟨hauto, hresolves, hpassed, hchecked⟩
    obtain ⟨run, text, hanswers, -, -, hgives, htext⟩ := exists_gives_of_permits now hcall hpermits
    have hentries : run.entries = [⟨e, call.function.arguments⟩] :=
      hanswers.entriesAt_eq.symm.trans (entriesAt_of_permits now hcall hpermits)
    exact ⟨run, hanswers, .entered hentries hgives htext⟩
  · obtain ⟨hvalidate, hcheck⟩ := Classical.not_imp.1 hchecked
    obtain ⟨complaint, hcheck⟩ := Option.ne_none_iff_exists'.1 hcheck
    have hverdict : inv.Verdict c (.ofToolCall inv.policy (some inv.registry) call)
        (.error complaint) := .invalid hresolves hpassed hvalidate hcheck
    obtain ⟨moment, -, hanswers⟩ := exists_answers_of_auto hauto inv now hcall
    rw [execute_of_refused hverdict.permit_eq] at hanswers
    exact ⟨_, hanswers, .faulted hvalidate hcheck rfl rfl
      (Schema.Validator.message_ne_of_check hcheck)⟩

/-- A call of a function that was found but not offered is refused for that, unless any function
    may be called. -/
theorem exists_refused_of_not_offered (inv : Invoker) {c : Configuration}
    (hauto : c.autoInvoke = true) {e : Callable} (hoffered : c.isAdvertised inv.registry e = false)
    (hany : c.allowAny = false) (now : Nat) {calls : List ToolCall} {i : Nat} {call : ToolCall}
    (hcall : calls[i]? = some call)
    (hresolves : inv.policy.resolve call.function.name inv.registry = some e) :
    ∃ o, (inv.invoke c now calls).Answers i call
      (.refused o (.notOffered call.function.name)) := by
  have hverdict : inv.Verdict c (.ofToolCall inv.policy (some inv.registry) call)
      (.error (.notOffered call.function.name)) := .withheld hresolves hoffered hany
  obtain ⟨moment, -, hanswers⟩ := exists_answers_of_auto hauto inv now hcall
  rw [execute_of_refused hverdict.permit_eq] at hanswers
  exact ⟨_, hanswers⟩

end Invoker

/-! ## What is offered -/

/-- **What is offered can be called.**  Let a behavior come to a configuration over a built
    registry under which calls are run, and let the policy use a separator that stands out.  For
    every function that is offered and has a plugin, and without other separators to try for every
    function that is offered,

    1. the registry holds a function under the names of the one that is offered, the name that the
       policy builds stands for it, and it counts as offered;
    2. whatever the limits and whichever validator checks arguments, a call by this name gets
       through: it enters the handler, once and with the arguments of the call, and is told what
       that gives, or it is told what is wrong with its arguments; it is never told that the
       function is not available or was not offered. -/
theorem offered_is_callable {r : Registry} (hr : r.Built) {separator : String}
    (hsep : Text.standsOut separator = true) (others : List String) {b : Behavior}
    {history : History} {c : Configuration} (hc : b.configuration (some r) history = .ok c)
    (hauto : c.autoInvoke = true) {f : Callable} (hf : f ∈ c.functions)
    (hplain : f.plugin ≠ none ∨ others = []) :
    let policy := (PolicySettings.mk separator false others).toPolicy
    ∃ e, r.get? f.plugin f.name = some e ∧
      policy.resolve (policy.fqn f.metadata) r = some e ∧
      c.isAdvertised r e = true ∧
      ∀ (limits : Limits) (validator : Schema.Validator) (now : Nat) (calls : List ToolCall)
        (i : Nat) (call : ToolCall),
        calls[i]? = some call → call.function.name = policy.fqn f.metadata →
        let inv : Invoker := ⟨r, policy, limits, validator⟩
        ∃ run, (inv.invoke c now calls).Answers i call run ∧ run.GetsThrough inv e call := by
  intro policy
  obtain ⟨e, he⟩ := Behavior.exists_entry?_of_configuration hc hauto hf
  have hresolves : policy.resolve (policy.fqn f.metadata) r = some e :=
    PolicySettings.resolve_fqn hsep hr.wellFormed hplain he
  have hoffered := c.isAdvertised_of_entry? hf he
  refine ⟨e, he, hresolves, hoffered, ?_⟩
  intro limits validator now calls i call hcall hname inv
  rw [← hname] at hresolves
  exact inv.exists_getsThrough hauto (Or.inl hoffered) now hcall hresolves

/-- The function that is offered is not the one that is registered, and writes its names otherwise;
    a call by the name built for it enters the handler of the one that is registered. -/
theorem offered_is_callable_recased :
    let f : Callable := .ofMember 7 "my_tools" (.echo "ADD")
    let policy := (PolicySettings.mk "-" false ["_", ""]).toPolicy
    let c : Configuration := ⟨.auto, [f], true, false⟩
    let call : ToolCall := .ofFunction "1" "my_tools-ADD" "\x7b\x7d"
    (Behavior.default.withFunctions [f]).configuration (some .sample) [] = .ok c ∧
      policy.fqn f.metadata = "my_tools-ADD" ∧
      ∃ run, (Invoker.invoke ⟨.sample, policy, .default, .builtIn⟩ c 0 [call]).Answers 0 call run ∧
        run.entries = [⟨.ofMember 2 "My_Tools" (.echo "add"), "\x7b\x7d"⟩] ∧
        run.text = "\x7b\x7d" := by
  intro f policy c call
  have hc : (Behavior.default.withFunctions [f]).configuration (some .sample) [] = .ok c := by
    refine Behavior.configuration_eq_ok_iff.2 ⟨fun _ => ?_, rfl⟩
    exact Behavior.checkInvocable_eq_ok_iff.2 ⟨.sample, rfl, by decide⟩
  have hsep : Text.standsOut "-" = true := by decide
  have hfqn : policy.fqn f.metadata = "my_tools-ADD" := by decide
  have hentry : Registry.sample.get? (some "my_tools") "ADD" =
      some (.ofMember 2 "My_Tools" (.echo "add")) := rfl
  refine ⟨hc, hfqn, ?_⟩
  obtain ⟨e, he, -, -, hcalls⟩ := offered_is_callable Registry.built_sample hsep
    ["_", ""] hc rfl List.mem_cons_self (Or.inl (by decide))
  obtain rfl := Option.some.inj (hentry.symm.trans he)
  obtain ⟨run, hanswers, hthrough⟩ := hcalls .default .builtIn 0 [call] 0 call rfl hfqn.symm
  refine ⟨run, hanswers, ?_⟩
  cases hthrough with
  | entered hentries hgives htext =>
    refine ⟨hentries, htext.trans ?_⟩
    -- the handler answers with its arguments, at once
    cases hgives with
    | complaint hstart => cases hstart
    | answer hstart hin =>
      obtain rfl := Except.ok.inj hstart
      decide +kernel
    | late hstart hlimit hlate =>
      obtain rfl := Except.ok.inj hstart
      cases hlate
  | faulted hvalidate hcheck =>
    have hchecked : Schema.Validator.builtIn.check
        (Callable.ofMember 2 "My_Tools" (.echo "add")).metadata "\x7b\x7d" = none := rfl
    cases hchecked.symm.trans hcheck

end FunctionCalling
