/-
  Calls of other functions.

  A limit is a limit on each function by itself, so what was called besides should not matter to
  a candidate.  Two histories are compared, one of them with more messages, of which no call counts
  for the candidate:

  1. what counts for the candidate is the same in both, and so is what the limit allows
     (`allows_append_iff`);
  2. the selector leaves what the limit allows, or everything while nothing was called
     (`leaves_iff`).  So the verdict on a candidate is the same in both (`leaves_append_iff`) but
     for one case, in which a call of anything else is the first call there is.

  In that case the limit is zero.  The limit does not allow the candidate, and it is left only
  because the selector does not answer yet (`Overlooks`).  The first call, whatever it is of, makes
  the selector answer, and the candidate is withheld.
-/
import FunctionCalling.Proofs.CallLimits

namespace FunctionCalling.Choice

open FunctionCalling.Text

namespace CallLimit

variable {limit : CallLimit} {r : Registry} {history more : History} {f : Callable}

/-! ## What counts -/

/-- A call that resolves to anything but what the candidate stands for does not count for it. -/
theorem countsFor_eq_false_of_resolve_ne {call : ToolCall} (hr : r.Built)
    (h : limit.policy.resolve call.function.name r ≠ r.entry? f.metadata) :
    limit.countsFor r f call = false := by
  refine eq_false_of_ne_true fun hcounts => h ?_
  rw [countsFor] at hcounts
  cases hentry : r.entry? f.metadata with
  | some e =>
    have he : e ∈ r.functions := (Registry.mem_and_sameName_of_get? hentry).1
    simp only [hentry, isCallOf_iff hr he] at hcounts
    exact hcounts
  | none =>
    simp only [hentry, Bool.and_eq_true, Option.isNone_iff_eq_none] at hcounts
    exact hcounts.1

/-- Calls that do not count for a candidate leave its count as it is. -/
theorem callsFor_append_eq (hother : ∀ call ∈ more.toolCalls, limit.countsFor r f call = false) :
    limit.callsFor r (history ++ more) f = limit.callsFor r history f := by
  have hnone : more.toolCalls.countP (limit.countsFor r f) = 0 := by
    refine List.countP_eq_zero.2 ?_
    intro call hcall
    rw [hother call hcall]
    exact Bool.false_ne_true
  rw [callsFor, History.toolCalls_append, List.countP_append, hnone, Nat.add_zero, callsFor]

theorem allows_append_iff
    (hother : ∀ call ∈ more.toolCalls, limit.countsFor r f call = false) :
    limit.Allows r (history ++ more) f ↔ limit.Allows r history f := by
  rw [Allows, callsFor_append_eq hother, Allows]

/-! ## What is left -/

/-- A candidate is left by the selector; when the selector does not answer, all candidates are. -/
def Leaves (limit : CallLimit) (r : Registry) (history : History) (candidates : List Callable)
    (f : Callable) : Prop :=
  f ∈ (limit.selector ⟨candidates, history, some r⟩).getD candidates

/-- The limit allows no call of the candidate, and nothing was called yet. -/
structure Overlooks (limit : CallLimit) (history : History) (f : Callable) : Prop where
  maxCalls : limit.maxCalls = 0
  limited : limit.policy.fqn f.metadata ∉ limit.alwaysInclude
  uncalled : history.toolCalls = []

/-- A candidate is left when the limit allows it, or while nothing was called. -/
theorem leaves_iff (hr : r.Built) {candidates : List Callable} (hf : f ∈ candidates) :
    limit.Leaves r history candidates f ↔
      history.toolCalls = [] ∨ limit.Allows r history f := by
  rw [Leaves, limit.getD_selector_eq_filter hr, List.mem_filter, decide_eq_true_iff]
  exact and_iff_right hf

/-- A limit of zero allows only what has no limit. -/
theorem Overlooks.not_allows (h : limit.Overlooks history f) (r : Registry) (other : History) :
    ¬ limit.Allows r other f := by
  rintro (hincluded | hfewer)
  · exact h.limited hincluded
  · rw [h.maxCalls] at hfewer
    exact Nat.not_lt_zero _ hfewer

/-- What is not overlooked is allowed while nothing was called. -/
theorem allows_of_not_overlooks (h : ¬ limit.Overlooks history f)
    (hempty : history.toolCalls = []) (r : Registry) : limit.Allows r history f := by
  by_cases hincluded : limit.policy.fqn f.metadata ∈ limit.alwaysInclude
  · exact Or.inl hincluded
  · have hmax : limit.maxCalls ≠ 0 := fun hzero => h ⟨hzero, hincluded, hempty⟩
    exact allows_of_toolCalls_eq_nil (Nat.pos_of_ne_zero hmax) r hempty f

/-- **Other calls do not change the verdict on a candidate** that is not overlooked. -/
theorem leaves_append_iff (hr : r.Built) {candidates : List Callable} (hf : f ∈ candidates)
    (hother : ∀ call ∈ more.toolCalls, limit.countsFor r f call = false)
    (h : ¬ limit.Overlooks history f) :
    limit.Leaves r (history ++ more) candidates f ↔ limit.Leaves r history candidates f := by
  rw [leaves_iff hr hf, leaves_iff hr hf, allows_append_iff hother, History.toolCalls_append,
    List.append_eq_nil_iff]
  constructor
  · rintro (⟨hempty, -⟩ | hallows)
    · exact Or.inl hempty
    · exact Or.inr hallows
  · rintro (hempty | hallows)
    · exact Or.inr (allows_of_not_overlooks h hempty r)
    · exact Or.inr hallows

/-- A candidate that is overlooked is left until anything is called. -/
theorem leaves_append_iff_of_overlooks (hr : r.Built) {candidates : List Callable}
    (hf : f ∈ candidates) (h : limit.Overlooks history f) :
    limit.Leaves r (history ++ more) candidates f ↔ more.toolCalls = [] := by
  rw [leaves_iff hr hf, History.toolCalls_append, h.uncalled, List.nil_append]
  exact or_iff_left (h.not_allows r (history ++ more))

end CallLimit

/-- **Calls of other functions leave the verdict on a candidate alone**, unless the limit is zero
    and they are the first calls of all.  Let messages be added to a history, and let none of their
    calls count for the candidate.  None does that resolves to anything but what the candidate
    stands for, be it nothing; whatever the limit, its policy and what it always includes. -/
theorem verdict_despite_other_calls {r : Registry} (hr : r.Built) (limit : CallLimit)
    (history more : History) {candidates : List Callable} {f : Callable} (hf : f ∈ candidates) :
    (∀ call : ToolCall, limit.policy.resolve call.function.name r ≠ r.entry? f.metadata →
      limit.countsFor r f call = false) ∧
    ((∀ call ∈ more.toolCalls, limit.countsFor r f call = false) →
      (¬ limit.Overlooks history f →
        (limit.Leaves r (history ++ more) candidates f ↔
          limit.Leaves r history candidates f)) ∧
      (limit.Overlooks history f →
        limit.Leaves r history candidates f ∧
          (limit.Leaves r (history ++ more) candidates f ↔ more.toolCalls = []))) := by
  constructor
  · intro call hresolve
    exact CallLimit.countsFor_eq_false_of_resolve_ne hr hresolve
  · intro hother
    constructor
    · exact CallLimit.leaves_append_iff hr hf hother
    · intro h
      refine ⟨(CallLimit.leaves_iff hr hf).2 (Or.inl h.uncalled), ?_⟩
      exact CallLimit.leaves_append_iff_of_overlooks hr hf h

/-- Two plugins have a function of one name.  Calls of the one, under several spellings, and calls
    of nothing leave the other as it was, under a limit of one call; under a limit of none the other
    was overlooked, and is left no longer. -/
theorem verdict_despite_other_calls_namesakes :
    let limit : CallLimit := ⟨1, .default, []⟩
    let none : CallLimit := ⟨0, .default, []⟩
    let history : History := [.ofText .user "Add these."]
    let more : History := [.ofToolCalls [.ofFunction "1" "Math-Add" "\x7b\x7d",
      .ofFunction "2" "MATH-ADD" "\x7b\x7d", .ofFunction "3" "nope-x" "\x7b\x7d"]]
    let add : Callable := .ofMember 0 "Math" (.echo "Add")
    let other : Callable := .ofMember 2 "My_Tools" (.echo "add")
    (∀ call ∈ more.toolCalls, limit.countsFor .sample other call = false) ∧
      limit.Leaves .sample (history ++ more) [add, other] other ∧
      none.Leaves .sample history [add, other] other ∧
      ¬ none.Leaves .sample (history ++ more) [add, other] other := by
  intro limit none history more add other
  have hother : other ∈ [add, other] := List.mem_cons_of_mem _ List.mem_cons_self
  have huncounted : ∀ call ∈ more.toolCalls, limit.countsFor .sample other call = false := by
    decide
  have huncounted' : ∀ call ∈ more.toolCalls, none.countsFor .sample other call = false := by
    decide
  have hallowed : limit.Leaves .sample history [add, other] other :=
    (CallLimit.leaves_iff Registry.built_sample hother).2 (Or.inl rfl)
  have hregarded : ¬ limit.Overlooks history other := by
    intro h
    cases h.maxCalls
  have hoverlooked : none.Overlooks history other := ⟨rfl, List.not_mem_nil, rfl⟩
  obtain ⟨-, hmoved⟩ :=
    verdict_despite_other_calls Registry.built_sample limit history more hother
  obtain ⟨-, hmoved'⟩ :=
    verdict_despite_other_calls Registry.built_sample none history more hother
  obtain ⟨hleft, hwithheld⟩ := (hmoved' huncounted').2 hoverlooked
  refine ⟨huncounted, ((hmoved huncounted).1 hregarded).2 hallowed, hleft, ?_⟩
  intro hstill
  exact List.cons_ne_nil _ _ (hwithheld.1 hstill)

/-- Under a limit of none, a call of one function withholds another that was left before. -/
theorem withheld_after_another_call :
    let limit : CallLimit := ⟨0, .default, []⟩
    let add : Callable := .ofMember 0 "Math" (.echo "Add")
    let call : ToolCall := .ofFunction "1" "Math-Sub" "\x7b\x7d"
    Registry.sample.entry? add.metadata = some add ∧
      limit.policy.resolve call.function.name .sample ≠ some add ∧
      limit.Leaves .sample [] [add] add ∧
      ¬ limit.Leaves .sample ([] ++ [.ofToolCalls [call]]) [add] add := by
  intro limit add call
  have hentry : Registry.sample.entry? (Callable.ofMember 0 "Math" (.echo "Add")).metadata =
      some (.ofMember 0 "Math" (.echo "Add")) := rfl
  have hadd : add ∈ [add] := List.mem_cons_self
  have hoverlooked : limit.Overlooks [] add := ⟨rfl, List.not_mem_nil, rfl⟩
  have hwithheld : limit.Leaves .sample ([] ++ [.ofToolCalls [call]]) [add] add ↔
      History.toolCalls [.ofToolCalls [call]] = [] :=
    CallLimit.leaves_append_iff_of_overlooks Registry.built_sample hadd hoverlooked
  refine ⟨hentry, ?_, (CallLimit.leaves_iff Registry.built_sample hadd).2 (Or.inl rfl), ?_⟩
  · intro hresolve
    have hid : (limit.policy.resolve call.function.name .sample).map Callable.id ≠ some 0 := by
      decide
    exact hid (congrArg (Option.map Callable.id) hresolve)
  · intro hstill
    exact List.cons_ne_nil _ _ (hwithheld.1 hstill)

end FunctionCalling.Choice
