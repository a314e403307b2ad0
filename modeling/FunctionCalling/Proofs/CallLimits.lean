/-
  What a limit on calls leaves, and what it withholds.

  `CallLimit.callsOf` says how often a function was called: how many of the recorded calls the
  policy and the registry resolve to it, under whatever names.  `CallLimit.Allows` says by this
  which candidates may still be called: the calls that count for a candidate are those of the
  function it stands for, and if it stands for none, those that stand for none and go by its names.

  The selector knows nothing of functions.  It leaves exactly the candidates that the limit allows
  all the same, in their order; two things are between the two:

  1. the selector counts identities.  A call counts for a candidate exactly when the two have one
     identity (`countsFor_iff`), so the counts agree (`lookup_identity`);
  2. the selector does not answer while nothing was called.  Then nothing counts for any candidate,
     and a limit that allows for calls at all allows all of them (`getD_selector`).

  Once a function is `Spent`, every candidate whose names stand for it is withheld, unless the
  candidate is always included (`entry?_ne_of_mem_candidates`), and it stays spent whatever is added
  to the history (`Spent.append`).
-/
import FunctionCalling.Proofs.Identities
import FunctionCalling.Proofs.Safety

namespace FunctionCalling.Choice

open FunctionCalling.Text

/-- What can be invoked can be invoked after some of it is taken away. -/
theorem Behavior.checkInvocable_of_subset {functions fewer : List Callable}
    {registry : Option Registry} (h : checkInvocable functions registry = .ok ())
    (hsub : fewer ⊆ functions) : checkInvocable fewer registry = .ok () := by
  obtain ⟨r, hregistry, hall⟩ := checkInvocable_eq_ok_iff.1 h
  exact checkInvocable_eq_ok_iff.2 ⟨r, hregistry, fun f hf => hall f (hsub hf)⟩

namespace CallLimit

/-! ## Which calls count -/

/-- Whether the policy and the registry resolve a call to a function. -/
def isCallOf (limit : CallLimit) (r : Registry) (f : Callable) (call : ToolCall) : Bool :=
  (limit.policy.resolve call.function.name r).any fun e => e.sameAs f

/-- How many of the recorded calls are of a function. -/
def callsOf (limit : CallLimit) (r : Registry) (history : History) (f : Callable) : Nat :=
  history.toolCalls.countP (limit.isCallOf r f)

/-- The calls of a function are those that resolve to it. -/
theorem isCallOf_iff {limit : CallLimit} {r : Registry} (hr : r.Built) {f : Callable}
    (hf : f ∈ r.functions) {call : ToolCall} :
    limit.isCallOf r f call = true ↔ limit.policy.resolve call.function.name r = some f := by
  constructor
  · intro h
    obtain ⟨e, he, hsame⟩ := (Option.any_eq_true _ _).1 h
    obtain rfl : e = f :=
      hr.toldApart.eq_of_sameAs (Registry.mem_and_sameName_of_get? he).1 hf hsame
    exact he
  · intro h
    simp [isCallOf, h]

/-- Whether a call counts for a candidate: it is of the function that the candidate stands for; or
    the candidate stands for none, nor does the call, and the call goes by the candidate's names. -/
def countsFor (limit : CallLimit) (r : Registry) (f : Callable) (call : ToolCall) : Bool :=
  match r.entry? f.metadata with
  | some e => limit.isCallOf r e call
  | none =>
    let parsed := limit.policy.parse call.function.name (some r)
    (parsed.resolve r).isNone && f.metadata.is parsed.plugin parsed.function

/-- How many of the recorded calls count for a candidate. -/
def callsFor (limit : CallLimit) (r : Registry) (history : History) (f : Callable) : Nat :=
  history.toolCalls.countP (limit.countsFor r f)

/-- A candidate may be called: it has no limit, or fewer calls count for it than the limit is. -/
def Allows (limit : CallLimit) (r : Registry) (history : History) (f : Callable) : Prop :=
  limit.policy.fqn f.metadata ∈ limit.alwaysInclude ∨
    limit.callsFor r history f < limit.maxCalls

instance (limit : CallLimit) (r : Registry) (history : History) (f : Callable) :
    Decidable (limit.Allows r history f) :=
  inferInstanceAs (Decidable (_ ∨ _))

/-- **A call counts for a candidate when the two have one identity.** -/
theorem countsFor_iff (limit : CallLimit) {r : Registry} (hr : r.Built) (f : Callable)
    (call : ToolCall) :
    limit.countsFor r f call = true ↔
      limit.callIdentity (some r) call = identity (some r) f.plugin f.name := by
  rw [callIdentity, identity_eq_iff hr.wellFormed]
  cases hentry : r.entry? f.metadata with
  | some e =>
    have hget : r.get? f.plugin f.name = some e := hentry
    have he : e ∈ r.functions := (Registry.mem_and_sameName_of_get? hget).1
    simp only [countsFor, hentry, isCallOf_iff hr he, hget, reduceCtorEq, false_implies, and_true]
    rfl
  | none =>
    have hget : r.get? f.plugin f.name = none := hentry
    simp only [countsFor, hentry, hget, Bool.and_eq_true, Option.isNone_iff_eq_none,
      Metadata.is_iff, true_implies]
    exact and_congr_right' (and_congr eq_comm eq_comm)

/-- What the selector has counted under the identity of a candidate. -/
theorem lookup_identity (limit : CallLimit) {r : Registry} (hr : r.Built) (history : History)
    (f : Callable) :
    ((limit.callCounts (some r) history).lookup (identity (some r) f.plugin f.name)).getD 0 =
      limit.callsFor r history f := by
  rw [callCounts, lookup_tally, List.count_eq_countP, List.countP_map]
  refine List.countP_congr ?_
  intro call _
  rw [countsFor_iff limit hr]
  exact beq_iff_eq

/-! ## Which candidates are left -/

/-- The selector keeps what the limit allows. -/
theorem keeps_eq_allows (limit : CallLimit) {r : Registry} (hr : r.Built) (history : History)
    (f : Callable) :
    limit.keeps (some r) (limit.callCounts (some r) history) f =
      decide (limit.Allows r history f) := by
  rw [keeps, lookup_identity limit hr, Bool.eq_iff_iff, decide_eq_true_iff]
  simp [Allows]

theorem callCounts_eq_nil_iff (limit : CallLimit) (registry : Option Registry)
    (history : History) : limit.callCounts registry history = [] ↔ history.toolCalls = [] := by
  rw [callCounts, tally_eq_nil_iff, List.map_eq_nil_iff]

/-- What the selector leaves, whether it answers or not: what the limit allows, or everything while
    nothing was called. -/
theorem getD_selector_eq_filter (limit : CallLimit) {r : Registry} (hr : r.Built)
    (history : History) (candidates : List Callable) :
    (limit.selector ⟨candidates, history, some r⟩).getD candidates =
      candidates.filter fun f => history.toolCalls = [] ∨ limit.Allows r history f := by
  have hnone := limit.callCounts_eq_nil_iff (some r) history
  cases hcounts : limit.callCounts (some r) history with
  | nil =>
    have hempty : history.toolCalls = [] := hnone.1 hcounts
    simp [selector, hcounts, hempty]
  | cons entry counts =>
    have hcalled : history.toolCalls ≠ [] := by
      intro hempty
      rw [hnone.2 hempty] at hcounts
      cases hcounts
    simp only [selector, hcounts, Option.getD_some, hcalled, false_or]
    refine List.filter_congr ?_
    intro f _
    rw [← hcounts]
    exact keeps_eq_allows limit hr history f

/-- While nothing was called, a limit that allows for calls at all allows everything. -/
theorem allows_of_toolCalls_eq_nil {limit : CallLimit} (hmax : 1 ≤ limit.maxCalls) (r : Registry)
    {history : History} (h : history.toolCalls = []) (f : Callable) :
    limit.Allows r history f := by
  refine Or.inr ?_
  rw [callsFor, h, List.countP_nil]
  exact hmax

/-- Such a limit leaves what it allows. -/
theorem getD_selector {limit : CallLimit} (hmax : 1 ≤ limit.maxCalls) {r : Registry}
    (hr : r.Built) (history : History) (candidates : List Callable) :
    (limit.selector ⟨candidates, history, some r⟩).getD candidates =
      candidates.filter fun f => limit.Allows r history f := by
  rw [limit.getD_selector_eq_filter hr]
  refine List.filter_congr ?_
  intro f _
  exact decide_eq_decide.2 (or_iff_right_of_imp fun h => allows_of_toolCalls_eq_nil hmax r h f)

/-- A behavior with a limit offers what the limit allows of the functions it starts from. -/
theorem candidates_of_selector {limit : CallLimit} (hmax : 1 ≤ limit.maxCalls) {r : Registry}
    (hr : r.Built) {b : Behavior} (hselector : b.selector = some limit.selector)
    (history : History) :
    b.candidates (some r) history =
      (b.base (some r)).filter fun f => limit.Allows r history f := by
  simp only [Behavior.candidates, hselector]
  exact getD_selector hmax hr history _

/-- The selector never adds candidates. -/
theorem mem_base_of_mem_candidates {limit : CallLimit} {b : Behavior}
    (hselector : b.selector = some limit.selector) {registry : Option Registry}
    {history : History} {g : Callable} (hg : g ∈ b.candidates registry history) :
    g ∈ b.base registry := by
  rw [Behavior.candidates, hselector] at hg
  cases hcounts : limit.callCounts registry history with
  | nil => simpa [selector, hcounts] using hg
  | cons entry counts =>
    simp only [selector, hcounts, Option.getD_some, List.mem_filter] at hg
    exact hg.1

/-! ## Withholding -/

/-- The function was called as often as it may be. -/
def Spent (limit : CallLimit) (r : Registry) (history : History) (f : Callable) : Prop :=
  limit.maxCalls ≤ limit.callsOf r history f

instance (limit : CallLimit) (r : Registry) (history : History) (f : Callable) :
    Decidable (limit.Spent r history f) :=
  inferInstanceAs (Decidable (_ ≤ _))

/-- Further messages take no calls away. -/
theorem Spent.append {limit : CallLimit} {r : Registry} {history : History} {f : Callable}
    (h : limit.Spent r history f) (more : History) : limit.Spent r (history ++ more) f := by
  have hcount : limit.callsOf r (history ++ more) f =
      limit.callsOf r history f + limit.callsOf r more f := by
    simp only [callsOf, History.toolCalls_append, List.countP_append]
  unfold Spent at h ⊢
  omega

/-- A candidate whose names stand for a function that is spent is allowed only if it is always
    included. -/
theorem not_allows_of_spent {limit : CallLimit} {r : Registry} {history : History}
    {f g : Callable} (hspent : limit.Spent r history f) (hg : r.entry? g.metadata = some f)
    (hlimited : limit.policy.fqn g.metadata ∉ limit.alwaysInclude) :
    ¬ limit.Allows r history g := by
  have hcounts : limit.countsFor r g = limit.isCallOf r f := by
    funext call
    simp only [countsFor, hg]
  rintro (hincluded | hfewer)
  · exact hlimited hincluded
  · rw [callsFor, hcounts] at hfewer
    exact Nat.not_lt.2 hspent hfewer

/-- **No candidate that is left stands for a function that is spent**, unless some candidate that
    stands for it is always included. -/
theorem entry?_ne_of_mem_candidates {limit : CallLimit} (hmax : 1 ≤ limit.maxCalls) {r : Registry}
    (hr : r.Built) {b : Behavior} (hselector : b.selector = some limit.selector)
    {history : History} {f : Callable}
    (hlimited : ∀ g ∈ b.base (some r), r.entry? g.metadata = some f →
      limit.policy.fqn g.metadata ∉ limit.alwaysInclude)
    (hspent : limit.Spent r history f) {g : Callable}
    (hg : g ∈ b.candidates (some r) history) : r.entry? g.metadata ≠ some f := by
  intro hentry
  rw [candidates_of_selector hmax hr hselector, List.mem_filter, decide_eq_true_iff] at hg
  obtain ⟨hbase, hallowed⟩ := hg
  exact not_allows_of_spent hspent hentry (hlimited g hbase hentry) hallowed

end CallLimit

/-! ## Behaviors with a limit -/

/-- **A limit leaves what it allows.**  Let a limit allow for at least one call of each function.
    Then, whatever its policy, whatever it always includes and whatever was recorded,

    1. the selector leaves exactly the candidates that the limit allows, in their order;
    2. a behavior that comes to a configuration when it has no selector comes to one with the limit:
       the same, with the functions that the limit allows.

    A behavior has one selector at most, and the limit takes the place of any other; of what a
    behavior comes to with another selector nothing follows (`limit_in_place_of_selector`). -/
theorem limit_leaves_what_it_allows {r : Registry} (hr : r.Built) {limit : CallLimit}
    (hmax : 1 ≤ limit.maxCalls) (history : History) :
    (∀ candidates : List Callable,
      (limit.selector ⟨candidates, history, some r⟩).getD candidates =
        candidates.filter fun f => limit.Allows r history f) ∧
    ∀ (b : Behavior) (c : Configuration),
      { b with selector := none }.configuration (some r) history = .ok c →
      (b.withSelector limit.selector).configuration (some r) history =
        .ok { c with functions := c.functions.filter fun f => limit.Allows r history f } := by
  refine ⟨limit.getD_selector hmax hr history, ?_⟩
  intro b c hc
  obtain ⟨hcheck, rfl⟩ := Behavior.configuration_eq_ok_iff.1 hc
  have hcandidates : (b.withSelector limit.selector).candidates (some r) history =
      (b.base (some r)).filter fun f => limit.Allows r history f :=
    CallLimit.candidates_of_selector hmax hr rfl history
  refine Behavior.configuration_eq_ok_iff.2 ⟨?_, ?_⟩
  · intro hauto
    rw [hcandidates]
    exact Behavior.checkInvocable_of_subset (hcheck hauto) List.filter_sublist.subset
  · rw [hcandidates]
    rfl

/-- A function that was called once, in capitals, is withheld, also from a candidate that does not
    say its plugin; so is a candidate that stands for nothing and was called in vain.  What has no
    limit is left, and what was not called. -/
theorem limit_leaves_what_it_allows_once :
    let limit : CallLimit := ⟨1, .default, ["Math-Sub"]⟩
    let history : History := [.ofToolCalls [.ofFunction "1" "MATH-add" "\x7b\x7d",
      .ofFunction "2" "Math-Sub" "\x7b\x7d", .ofFunction "3" "nope-x" "\x7b\x7d"]]
    let add : Callable := .ofMember 0 "Math" (.echo "Add")
    let sub : Callable := .ofMember 1 "Math" (.echo "Sub")
    let other : Callable := .ofMember 2 "My_Tools" (.echo "add")
    let bare : Callable := .ofDraft 7 (.echo "ADD")
    let called : Callable := .ofMember 8 "Nope" (.echo "X")
    let uncalled : Callable := .ofMember 9 "Nope" (.echo "Y")
    (limit.selector ⟨[add, sub, bare, called, sub, other, uncalled], history, some .sample⟩).getD
        [add, sub, bare, called, sub, other, uncalled] = [sub, sub, other, uncalled] ∧
      (Behavior.default.withSelector limit.selector).configuration (some .sample) history =
        .ok ⟨.auto, [sub, other], true, false⟩ := by
  intro limit history add sub other bare called uncalled
  have hmax : 1 ≤ limit.maxCalls := Nat.le_refl 1
  obtain ⟨hselect, hconfiguration⟩ := limit_leaves_what_it_allows Registry.built_sample hmax history
  have hwhole : { Behavior.default with selector := none }.configuration (some .sample) history =
      .ok ⟨.auto, [add, sub, other], true, false⟩ := rfl
  have hadd : ¬ limit.Allows .sample history add := by decide
  have hbare : ¬ limit.Allows .sample history bare := by decide
  have hcalled : ¬ limit.Allows .sample history called := by decide
  have hsub : limit.Allows .sample history sub := by decide
  have hother : limit.Allows .sample history other := by decide
  have huncalled : limit.Allows .sample history uncalled := by decide
  constructor
  · rw [hselect]
    simp [hadd, hsub, hbare, hcalled, hother, huncalled]
  · rw [hconfiguration Behavior.default _ hwhole]
    simp [hadd, hsub, hother]

/-- A selector drops a function that the registry does not hold, and so the behavior comes to a
    configuration.  Nothing was called, so a limit in place of this selector drops nothing, and the
    configuration fails. -/
theorem limit_in_place_of_selector :
    let limit : CallLimit := ⟨1, .default, []⟩
    let add : Callable := .ofMember 0 "Math" (.echo "Add")
    let stray : Callable := .ofMember 7 "Other" (.echo "Thing")
    let first : Selector := fun s => some (s.candidates.take 1)
    let b := (Behavior.default.withFunctions [add, stray]).withSelector first
    Registry.sample.Built ∧ 1 ≤ limit.maxCalls ∧
      b.configuration (some .sample) [] = .ok ⟨.auto, [add], true, false⟩ ∧
      (b.withSelector limit.selector).configuration (some .sample) [] =
        .error (.functionNotAvailable "Other.Thing") :=
  ⟨Registry.built_sample, Nat.le_refl 1, rfl, rfl⟩

end FunctionCalling.Choice
