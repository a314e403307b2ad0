/-
  Calls side by side.

  The invoker runs the calls of one message either in turn or side by side.  Side by side means
  that nobody says in which order they get on: `Underway` is the time and how far each call has
  come, in a step time passes or one call does its next thing (`Underway.Step`), and any sequence of
  steps may happen.  A call begins when it likes, its handler is entered at that moment, and its
  limit counts from then; the word that it is done, or that it took too long, may come later than it
  is due.  Whether a handler took too long goes by its own duration and the limit alone.

  Whatever the others do, a call is always at a point of a run of its own (`Stage.Fits`), on the
  occasion on which it began:

  1. a step of one call keeps it there (`Advance.fits`), and so does a step of all
     (`Underway.Step.fits`);
  2. from wherever they are, all calls can be brought to their end (`Underway.exists_ended`);
  3. once all are over, each was told what it is told when it is run alone, on some occasion.

  A handler that looks at the clock gives one thing on one occasion and another on the next, and
  then it does matter when calls begin.  Where handlers go by their arguments alone
  (`Registry.Steady`) it does not, and results depend on none of this
  (`Underway.results_of_ended`).
-/
import Mathlib.Logic.Relation
import FunctionCalling.Proofs.Failures

namespace FunctionCalling

open FunctionCalling.Choice (Configuration)
open FunctionCalling.Text

/-! ## Handlers that go by their arguments -/

/-- Whether all handlers of a registry go by their arguments alone. -/
def Registry.Steady (r : Registry) : Prop :=
  ∀ f ∈ r.functions, f.handler.Steady

/-- Such a handler gives the same on every occasion. -/
theorem Execution.text_enter_eq {f : Callable} (hsteady : f.handler.Steady) (timeout : Option Nat)
    (o o' : Occasion) (fqn arguments : String) :
    (enter timeout o f fqn arguments).text = (enter timeout o' f fqn arguments).text := by
  simp only [enter, hsteady o o' arguments]
  split
  · rfl
  · rfl
  · split <;> rfl

namespace Invoker

/-- So a call is told the same on every occasion. -/
theorem text_execute_eq {inv : Invoker} (hsteady : inv.registry.Steady) (c : Configuration)
    (o o' : Occasion) (call : ParsedCall) :
    (inv.execute c o call).text = (inv.execute c o' call).text := by
  cases hpermit : inv.permit c call with
  | error complaint =>
    rw [text_execute_of_refused hpermit, text_execute_of_refused hpermit]
  | ok f =>
    have hfound : call.name.resolve inv.registry = some f := (permit_eq_ok_iff.1 hpermit).1
    have hmem : f ∈ inv.registry.functions := (Registry.mem_and_sameName_of_get? hfound).1
    rw [text_execute_of_permit hpermit, text_execute_of_permit hpermit,
      Execution.text_enter_eq (hsteady f hmem) _ o o']

/-- What a call comes to when it is run alone, on the first of all occasions. -/
def result (inv : Invoker) (c : Configuration) (call : ToolCall) : CallResult :=
  let parsed := ParsedCall.ofToolCall inv.policy (some inv.registry) call
  resultOf parsed (inv.execute c ⟨0, 0⟩ parsed)

/-- Whenever calls are run and beside what, that is what they come to. -/
theorem outcome_invoke_of_auto {c : Configuration} (h : c.autoInvoke = true) (inv : Invoker)
    (hsteady : inv.registry.Steady) (now : Nat) (calls : List ToolCall) :
    (inv.invoke c now calls).outcome = .invoked (calls.map (inv.result c)) := by
  obtain ⟨results, houtcome, hlength, hall⟩ := exists_results_of_auto h inv now calls
  rw [houtcome]
  refine congrArg Outcome.invoked (List.ext_getElem? fun i => ?_)
  rw [List.getElem?_map]
  cases hcall : calls[i]? with
  | none =>
    rw [List.getElem?_eq_none_iff] at hcall
    exact List.getElem?_eq_none (by omega)
  | some call =>
    obtain ⟨moment, run, -, rfl, -, hresult⟩ := hall i call hcall
    rw [hresult, text_execute_eq hsteady c _ ⟨0, 0⟩]
    rfl

end Invoker

/-! ## One call among others -/

/-- How far a call has come. -/
inductive Stage where
  /-- It has not begun. -/
  | waiting
  /-- Its handler was entered at a moment. -/
  | busy (since : Nat) (activity : Activity)
  /-- It is over. -/
  | ended (text : String)

/-- What a call may do next on an occasion. -/
inductive Advance (inv : Invoker) (c : Configuration) (o : Occasion) (call : ParsedCall) :
    Stage → Stage → Prop where
  /-- It is refused. -/
  | refuse {complaint : Complaint} (hpermit : inv.permit c call = .error complaint) :
      Advance inv c o call .waiting (.ended complaint.message)
  /-- Its handler is entered and cannot start. -/
  | fail {f : Callable} {complaint : Complaint} (hpermit : inv.permit c call = .ok f)
      (hstart : f.handler.start o call.arguments = .error complaint) :
      Advance inv c o call .waiting
        (.ended (truncate inv.limits.maxResultBytes complaint.message))
  /-- Its handler is entered and starts. -/
  | enter {f : Callable} {activity : Activity} (hpermit : inv.permit c call = .ok f)
      (hstart : f.handler.start o call.arguments = .ok activity) :
      Advance inv c o call .waiting (.busy o.moment activity)
  /-- Its handler is done, and took no longer than it may. -/
  | finish {since : Nat} {activity : Activity}
      (hin : ∀ limit, inv.limits.timeout = some limit → activity.duration ≤ limit)
      (hdue : since + activity.duration ≤ o.moment) :
      Advance inv c o call (.busy since activity)
        (.ended (truncate inv.limits.maxResultBytes activity.text))
  /-- Its handler is cut off, for it takes longer than it may. -/
  | cutOff {since limit : Nat} {activity : Activity} (hlimit : inv.limits.timeout = some limit)
      (hlate : limit < activity.duration) (hdue : since + limit ≤ o.moment) :
      Advance inv c o call (.busy since activity)
        (.ended (truncate inv.limits.maxResultBytes (Complaint.timedOut call.fqn limit).message))

/-- Whether a call is at a point of a run of its own, on whatever occasion it began. -/
def Stage.Fits (inv : Invoker) (c : Configuration) (call : ParsedCall) : Stage → Prop
  | .waiting => True
  | .busy _ activity =>
    ∃ f o, inv.permit c call = .ok f ∧ f.handler.start o call.arguments = .ok activity
  | .ended text => ∃ o, text = (inv.execute c o call).text

/-- **A call that gets on stays on its own run.** -/
theorem Advance.fits {inv : Invoker} {c : Configuration} {o : Occasion} {call : ParsedCall}
    {stage stage' : Stage} (h : Advance inv c o call stage stage')
    (hfits : stage.Fits inv c call) : stage'.Fits inv c call := by
  cases h with
  | refuse hpermit => exact ⟨o, (Invoker.text_execute_of_refused hpermit o).symm⟩
  | fail hpermit hstart =>
    refine ⟨o, ?_⟩
    rw [Invoker.text_execute_of_permit hpermit, Execution.text_enter_of_error hstart]
  | enter hpermit hstart => exact ⟨_, o, hpermit, hstart⟩
  | finish hin hdue =>
    obtain ⟨f, began, hpermit, hstart⟩ := hfits
    refine ⟨began, ?_⟩
    rw [Invoker.text_execute_of_permit hpermit, Execution.text_enter_of_inTime hstart hin]
  | cutOff hlimit hlate hdue =>
    obtain ⟨f, began, hpermit, hstart⟩ := hfits
    refine ⟨began, ?_⟩
    rw [Invoker.text_execute_of_permit hpermit, hlimit, Execution.text_enter_of_late hstart hlate]

/-- A call that waits can begin: at once it is over or its handler is entered. -/
theorem Advance.exists_of_waiting (inv : Invoker) (c : Configuration) (o : Occasion)
    (call : ParsedCall) :
    (∃ text, Advance inv c o call .waiting (.ended text)) ∨
      ∃ activity, Advance inv c o call .waiting (.busy o.moment activity) := by
  cases hpermit : inv.permit c call with
  | error complaint => exact Or.inl ⟨_, .refuse hpermit⟩
  | ok f =>
    cases hstart : f.handler.start o call.arguments with
    | error complaint => exact Or.inl ⟨_, .fail hpermit hstart⟩
    | ok activity => exact Or.inr ⟨activity, .enter hpermit hstart⟩

/-- A call whose handler is busy comes to its end if time passes. -/
theorem Advance.exists_of_busy (inv : Invoker) (c : Configuration) (since : Nat) (o : Occasion)
    (call : ParsedCall) (activity : Activity) :
    ∃ ms text, Advance inv c ⟨o.moment + ms, o.place⟩ call (.busy since activity)
      (.ended text) := by
  rcases Execution.inTime_or_late inv.limits.timeout activity with hin | ⟨limit, hlimit, hlate⟩
  · exact ⟨since + activity.duration, _, .finish hin (Nat.le_add_left _ _)⟩
  · exact ⟨since + limit, _, .cutOff hlimit hlate (Nat.le_add_left _ _)⟩

/-! ## All calls together -/

/-- Calls side by side: the time, and how far each of them has come. -/
structure Underway where
  clock : Nat
  calls : List (ParsedCall × Stage)

namespace Underway

/-- Calls that all wait. -/
def start (now : Nat) (calls : List ParsedCall) : Underway :=
  ⟨now, calls.map fun call => (call, .waiting)⟩

/-- Time passes, or one of the calls gets on. -/
inductive Step (inv : Invoker) (c : Configuration) : Underway → Underway → Prop where
  | wait (clock ms : Nat) (calls : List (ParsedCall × Stage)) :
      Step inv c ⟨clock, calls⟩ ⟨clock + ms, calls⟩
  | advance {clock : Nat} {call : ParsedCall} {stage stage' : Stage}
      (before after : List (ParsedCall × Stage))
      (hadvance : Advance inv c ⟨clock, before.length⟩ call stage stage') :
      Step inv c ⟨clock, before ++ (call, stage) :: after⟩
        ⟨clock, before ++ (call, stage') :: after⟩

/-- Any number of steps. -/
abbrev Reaches (inv : Invoker) (c : Configuration) : Underway → Underway → Prop :=
  Relation.ReflTransGen (Step inv c)

/-- Whether every call is at a point of its own run. -/
def Fits (inv : Invoker) (c : Configuration) (u : Underway) : Prop :=
  ∀ entry ∈ u.calls, entry.2.Fits inv c entry.1

/-- Whether all calls are over. -/
def Ended (u : Underway) : Prop :=
  ∀ entry ∈ u.calls, ∃ text, entry.2 = .ended text

/-- The results of the calls that are over, in the order of the calls. -/
def results (u : Underway) : List CallResult :=
  u.calls.filterMap fun (call, stage) =>
    match stage with
    | .ended text => some ⟨call.id, call.fqn, text⟩
    | _ => none

theorem fits_start (inv : Invoker) (c : Configuration) (now : Nat) (calls : List ParsedCall) :
    (start now calls).Fits inv c := by
  intro entry hentry
  obtain ⟨call, -, rfl⟩ := List.mem_map.1 hentry
  trivial

variable {inv : Invoker} {c : Configuration} {u u' : Underway}

/-- A step brings no call off its own run, and loses and adds none. -/
theorem Step.fits (h : Step inv c u u') (hfits : u.Fits inv c) :
    u'.Fits inv c ∧ u'.calls.map Prod.fst = u.calls.map Prod.fst := by
  cases h with
  | wait => exact ⟨hfits, rfl⟩
  | @advance clock call stage stage' before after hadvance =>
    constructor
    · -- the others are where they were
      intro entry hentry
      rcases List.mem_append.1 hentry with hbefore | hrest
      · exact hfits entry (List.mem_append_left _ hbefore)
      · rcases List.mem_cons.1 hrest with rfl | hafter
        · have hcall := hfits (call, stage) (List.mem_append_right _ List.mem_cons_self)
          exact hadvance.fits hcall
        · exact hfits entry (List.mem_append_right _ (List.mem_cons_of_mem _ hafter))
    · rw [List.map_append, List.map_append, List.map_cons, List.map_cons]

/-- By induction on the steps. -/
theorem Reaches.fits (h : Reaches inv c u u') (hfits : u.Fits inv c) :
    u'.Fits inv c ∧ u'.calls.map Prod.fst = u.calls.map Prod.fst := by
  induction h with
  | refl => exact ⟨hfits, rfl⟩
  | tail _ hstep ih =>
    obtain ⟨hthen, hcalls⟩ := hstep.fits ih.1
    exact ⟨hthen, hcalls.trans ih.2⟩

/-- **Once all calls are over, each has the result that it has alone**, if handlers go by their
    arguments. -/
theorem results_of_ended (hsteady : inv.registry.Steady) (hfits : u.Fits inv c)
    (hended : u.Ended) :
    u.results =
      (u.calls.map Prod.fst).map fun call => resultOf call (inv.execute c ⟨0, 0⟩ call) := by
  have hall : u.results =
      u.calls.map fun entry => resultOf entry.1 (inv.execute c ⟨0, 0⟩ entry.1) := by
    refine List.filterMap_eq_map_iff_forall_eq_some.2 ?_
    rintro ⟨call, stage⟩ hentry
    obtain ⟨text, rfl⟩ : ∃ text, stage = .ended text := hended _ hentry
    obtain ⟨o, htext⟩ : ∃ o, text = (inv.execute c o call).text := hfits _ hentry
    rw [Invoker.text_execute_eq hsteady c o ⟨0, 0⟩] at htext
    simp only [resultOf, htext]
  rw [hall, List.map_map]
  rfl

/-- One call can be brought to its end, while the others stay where they are. -/
theorem exists_ended_one (inv : Invoker) (c : Configuration) (clock : Nat) (call : ParsedCall)
    (stage : Stage) (before after : List (ParsedCall × Stage)) :
    ∃ clock' text, Reaches inv c ⟨clock, before ++ (call, stage) :: after⟩
      ⟨clock', before ++ (call, .ended text) :: after⟩ := by
  have hbusy : ∀ since activity, ∃ clock' text,
      Reaches inv c ⟨clock, before ++ (call, .busy since activity) :: after⟩
        ⟨clock', before ++ (call, .ended text) :: after⟩ := by
    intro since activity
    obtain ⟨ms, text, hadvance⟩ :=
      Advance.exists_of_busy inv c since ⟨clock, before.length⟩ call activity
    have hwait : Reaches inv c ⟨clock, before ++ (call, .busy since activity) :: after⟩
        ⟨clock + ms, before ++ (call, .busy since activity) :: after⟩ := .single (.wait clock ms _)
    exact ⟨_, text, hwait.tail (.advance before after hadvance)⟩
  cases stage with
  | ended text => exact ⟨clock, text, .refl⟩
  | busy since activity => exact hbusy since activity
  | waiting =>
    rcases Advance.exists_of_waiting inv c ⟨clock, before.length⟩ call with
      ⟨text, hended⟩ | ⟨activity, hentered⟩
    · exact ⟨clock, text, .single (.advance before after hended)⟩
    · obtain ⟨clock', text, hdone⟩ := hbusy clock activity
      exact ⟨clock', text, .head (.advance before after hentered) hdone⟩

/-- **Calls never hold each other up**: from wherever they are, all can be brought to their end. -/
theorem exists_ended (inv : Invoker) (c : Configuration) (u : Underway) :
    ∃ u', Reaches inv c u u' ∧ u'.Ended := by
  -- one call after the other; those before are over already
  have hrest : ∀ (after before : List (ParsedCall × Stage)) (clock : Nat),
      (∀ entry ∈ before, ∃ text, entry.2 = .ended text) →
      ∃ u', Reaches inv c ⟨clock, before ++ after⟩ u' ∧ u'.Ended := by
    intro after
    induction after with
    | nil =>
      intro before clock hbefore
      rw [List.append_nil]
      exact ⟨_, .refl, hbefore⟩
    | cons entry after ih =>
      intro before clock hbefore
      obtain ⟨call, stage⟩ := entry
      obtain ⟨clock', text, hone⟩ := exists_ended_one inv c clock call stage before after
      have hmore : ∀ entry ∈ before ++ [(call, Stage.ended text)],
          ∃ text, entry.2 = .ended text := by
        intro entry hentry
        rcases List.mem_append.1 hentry with hentry | hentry
        · exact hbefore entry hentry
        · obtain rfl := List.mem_singleton.1 hentry
          exact ⟨text, rfl⟩
      obtain ⟨u', hreaches, hended⟩ := ih _ clock' hmore
      rw [List.append_assoc, List.singleton_append] at hreaches
      exact ⟨u', hone.trans hreaches, hended⟩
  exact hrest u.calls [] u.clock (fun entry hentry => absurd hentry List.not_mem_nil)

end Underway

/-! ## In turn, side by side, alone -/

/-- The same invoker, running calls in turn or side by side. -/
def Invoker.withSequential (inv : Invoker) (sequential : Bool) : Invoker :=
  { inv with limits := { inv.limits with sequential := sequential } }

/-- **The order in which calls get on makes no difference to what they come to.**  Let handlers go
    by their arguments alone.

    1. Run in turn and run side by side, calls have the same outcome.
    2. However calls get on side by side, they can always be brought to their end, and once they are
       all over their results, in the order of the calls, are that outcome.
    3. The result at a place has the id and the name of the call at that place, and is the result of
       this call run alone, so it does not depend on the other calls. -/
theorem outcome_in_any_order (inv : Invoker) (hsteady : inv.registry.Steady) (c : Configuration)
    (calls : List ToolCall) :
    (∀ now now', ((inv.withSequential true).invoke c now calls).outcome =
      ((inv.withSequential false).invoke c now' calls).outcome) ∧
    (c.autoInvoke = true → ∀ now u,
      Underway.Reaches inv c
        (.start now (calls.map (.ofToolCall inv.policy (some inv.registry)))) u →
      (∃ u', Underway.Reaches inv c u u' ∧ u'.Ended) ∧
      (u.Ended → ∀ sequential now',
        ((inv.withSequential sequential).invoke c now' calls).outcome = .invoked u.results)) ∧
    (c.autoInvoke = true → ∃ results, results.length = calls.length ∧
      (∀ now, (inv.invoke c now calls).outcome = .invoked results) ∧
      ∀ (i : Nat) (call : ToolCall) (result : CallResult), calls[i]? = some call →
        results[i]? = some result →
        result.callId = call.id ∧ result.fqn = call.function.name ∧
          ∀ now, (inv.invoke c now [call]).outcome = .invoked [result]) := by
  -- how calls are run is no part of what they come to
  have houtcome : c.autoInvoke = true → ∀ sequential now,
      ((inv.withSequential sequential).invoke c now calls).outcome =
        .invoked (calls.map (inv.result c)) :=
    fun hauto sequential now =>
      Invoker.outcome_invoke_of_auto hauto (inv.withSequential sequential) hsteady now calls
  refine ⟨?_, ?_, ?_⟩
  · intro now now'
    cases hauto : c.autoInvoke with
    | true => rw [houtcome hauto, houtcome hauto]
    | false =>
      rw [Invoker.outcome_invoke_of_manual hauto, Invoker.outcome_invoke_of_manual hauto]
      rfl
  · intro hauto now u hreaches
    refine ⟨Underway.exists_ended inv c u, ?_⟩
    intro hended sequential now'
    obtain ⟨hfits, hcalls⟩ := hreaches.fits (Underway.fits_start inv c now _)
    have hstart : (Underway.start now (calls.map
        (ParsedCall.ofToolCall inv.policy (some inv.registry)))).calls.map Prod.fst =
          calls.map (ParsedCall.ofToolCall inv.policy (some inv.registry)) := by
      simp [Underway.start]
    rw [houtcome hauto, Underway.results_of_ended hsteady hfits hended, hcalls, hstart,
      List.map_map]
    rfl
  · intro hauto
    refine ⟨calls.map (inv.result c), List.length_map _, ?_, ?_⟩
    · exact fun now => Invoker.outcome_invoke_of_auto hauto inv hsteady now calls
    · intro i call result hcall hresult
      rw [List.getElem?_map, hcall] at hresult
      obtain rfl := Option.some.inj hresult
      exact ⟨rfl, rfl, fun now => Invoker.outcome_invoke_of_auto hauto inv hsteady now [call]⟩

theorem Registry.steady_paced : paced.Steady := by
  intro f hf
  have hmem : f ∈ [Callable.ofMember 0 "Tools" (.sleeper "Slow" 1000 "done"),
    .ofMember 1 "Tools" (.echo "Quick"),
    .ofMember 2 "Tools" (.declared ⟨none, "Later", "", Metadata.anyObject⟩)] := hf
  simp only [List.mem_cons, List.not_mem_nil, or_false] at hmem
  rcases hmem with rfl | rfl | rfl
  · exact fun _ _ _ => rfl
  · exact fun _ _ _ => rfl
  · exact fun _ _ _ => rfl

/-- The first call is entered, the second only after the limit of the first is over; the second is
    done before the first is cut off. -/
theorem outcome_in_any_order_crossed :
    let inv : Invoker := ⟨.paced, .default, ⟨30000, some 500, false, false⟩, .builtIn⟩
    let c : Configuration := ⟨.auto, Registry.paced.functions, true, false⟩
    let calls : List ToolCall :=
      [.ofFunction "1" "Tools-Slow" "\x7b\x7d", .ofFunction "2" "Tools-Quick" "\x7b\x7d"]
    ∃ u, Underway.Reaches inv c
        (.start 0 (calls.map (.ofToolCall inv.policy (some inv.registry)))) u ∧
      u.results = [⟨"1", "Tools-Slow", (Complaint.timedOut "Tools-Slow" 500).message⟩,
        ⟨"2", "Tools-Quick", "\x7b\x7d"⟩] ∧
      ∀ sequential, ((inv.withSequential sequential).invoke c 0 calls).outcome =
        .invoked u.results := by
  intro inv c calls
  let slow : ParsedCall := ⟨"1", "Tools-Slow", ⟨some "Tools", "Slow"⟩, "\x7b\x7d"⟩
  let quick : ParsedCall := ⟨"2", "Tools-Quick", ⟨some "Tools", "Quick"⟩, "\x7b\x7d"⟩
  let nap : Activity := .pause 1000 "done"
  have hfirst : Registry.paced.get? (some "Tools") "Slow" =
      some (.ofMember 0 "Tools" (.sleeper "Slow" 1000 "done")) := rfl
  have hsecond : Registry.paced.get? (some "Tools") "Quick" =
      some (.ofMember 1 "Tools" (.echo "Quick")) := rfl
  have hslow : inv.permit c slow = .ok (.ofMember 0 "Tools" (.sleeper "Slow" 1000 "done")) :=
    Invoker.permit_eq_ok_iff.2 ⟨hfirst, Or.inl (by decide), Bool.noConfusion⟩
  have hquick : inv.permit c quick = .ok (.ofMember 1 "Tools" (.echo "Quick")) :=
    Invoker.permit_eq_ok_iff.2 ⟨hsecond, Or.inl (by decide), Bool.noConfusion⟩
  have hcalls : calls.map (.ofToolCall inv.policy (some inv.registry)) = [slow, quick] := by
    decide +kernel
  have hanswer : truncate 30000 "\x7b\x7d" = "\x7b\x7d" := by decide +kernel
  have hnotice : truncate 30000 (Complaint.timedOut "Tools-Slow" 500).message =
      (Complaint.timedOut "Tools-Slow" 500).message := by decide +kernel
  -- what each of the two does, and when
  have hslowBegins : Advance inv c ⟨0, 0⟩ slow .waiting (.busy 0 nap) := .enter hslow rfl
  have hquickBegins : Advance inv c ⟨700, 1⟩ quick .waiting (.busy 700 (.reply "\x7b\x7d")) :=
    .enter hquick rfl
  have hquickEnds : Advance inv c ⟨700, 1⟩ quick (.busy 700 (.reply "\x7b\x7d"))
      (.ended "\x7b\x7d") :=
    hanswer ▸ .finish (fun _ _ => Nat.zero_le _) (Nat.le_refl 700)
  have hslowEnds : Advance inv c ⟨700, 0⟩ slow (.busy 0 nap)
      (.ended (Complaint.timedOut "Tools-Slow" 500).message) := by
    have hlate : 500 < nap.duration := by decide
    exact hnotice ▸ .cutOff rfl hlate (by decide)
  have hwait : Underway.Step inv c ⟨0, [(slow, .busy 0 nap), (quick, .waiting)]⟩
      ⟨700, [(slow, .busy 0 nap), (quick, .waiting)]⟩ := .wait 0 700 _
  have hreaches : Underway.Reaches inv c ⟨0, [(slow, .waiting), (quick, .waiting)]⟩
      ⟨700, [(slow, .ended (Complaint.timedOut "Tools-Slow" 500).message),
        (quick, .ended "\x7b\x7d")]⟩ := by
    refine .head (.advance [] [(quick, .waiting)] hslowBegins) (.head hwait ?_)
    refine .head (.advance [(slow, .busy 0 nap)] [] hquickBegins) ?_
    refine .head (.advance [(slow, .busy 0 nap)] [] hquickEnds) ?_
    exact .single (.advance [] [(quick, .ended "\x7b\x7d")] hslowEnds)
  have hstart : Underway.start 0 (calls.map (.ofToolCall inv.policy (some inv.registry))) =
      ⟨0, [(slow, .waiting), (quick, .waiting)]⟩ := by
    rw [hcalls]
    rfl
  rw [← hstart] at hreaches
  refine ⟨_, hreaches, rfl, ?_⟩
  intro sequential
  refine ((outcome_in_any_order inv Registry.steady_paced c calls).2.1 rfl 0 _ hreaches).2 ?_
    sequential 0
  intro entry hentry
  rcases List.mem_cons.1 hentry with rfl | hentry
  · exact ⟨_, rfl⟩
  · obtain rfl := List.mem_singleton.1 hentry
    exact ⟨_, rfl⟩

end FunctionCalling
