/-
  What further registering leaves alone.

  A plugin is put behind those that a registry has, and none is ever changed or taken away.  So
  the plugins that a registry had are the first of those that it has later (`Registry.GrowsTo`).
  Every step of registering is such growth, whether it is taken or refused, but for taking up the
  registry put aside, which is an exchange (`Registration.growsTo_apply`); hence so is every run
  without an exchange (`Registration.growsTo_run`).

  All searches go from the front and stop at their first hit, and growth is behind it:

  1. what a lookup found, it finds again (`get?_of_growsTo`);
  2. a plugin that was found is found again, so what it does not have is still not found, whatever
     the plugins behind it have (`get?_eq_of_growsTo`);
  3. a policy without a reader of its own takes a name apart without asking the registry, so that
     1 holds of names as well (`resolve_of_growsTo`).

  The reader that asks the registry which split is meant is another matter: a split that it tries
  earlier may come to stand for something.  The example at the end shows this.
-/
import FunctionCalling.Choice
import FunctionCalling.Proofs.Registering

namespace FunctionCalling

open FunctionCalling.Choice (Behavior Configuration)

/-! ## Growth -/

namespace Registry

/-- The one registry is the beginning of the other. -/
def GrowsTo (r s : Registry) : Prop :=
  r.plugins <+: s.plugins

variable {r s t : Registry}

theorem GrowsTo.refl (r : Registry) : r.GrowsTo r :=
  List.prefix_rfl

theorem GrowsTo.trans (h : r.GrowsTo s) (h' : s.GrowsTo t) : r.GrowsTo t :=
  List.IsPrefix.trans h h'

/-- A plugin is put behind the others. -/
theorem growsTo_of_add {p : Plugin} (h : r.add p = .ok s) : r.GrowsTo s := by
  obtain ⟨-, rfl⟩ := add_eq_ok_iff.1 h
  exact List.prefix_append r.plugins [p]

theorem functions_prefix_of_growsTo (h : r.GrowsTo s) : r.functions <+: s.functions :=
  List.IsPrefix.flatMap h Plugin.functions

/-! ## Looking up -/

theorem plugin?_of_growsTo (h : r.GrowsTo s) {n : String} {p : Plugin}
    (hp : r.plugin? n = some p) : s.plugin? n = some p :=
  List.IsPrefix.find?_eq_some h hp

/-- **A lookup finds again what it found**, with a plugin or without. -/
theorem get?_of_growsTo (h : r.GrowsTo s) {plugin : Option String} {n : String} {f : Callable}
    (hf : r.get? plugin n = some f) : s.get? plugin n = some f := by
  unfold get? at hf ⊢
  cases hplugin : Metadata.namedPlugin plugin with
  | some q =>
    simp only [hplugin] at hf ⊢
    obtain ⟨p, hp, hpf⟩ := Option.bind_eq_some_iff.1 hf
    exact Option.bind_eq_some_iff.2 ⟨p, plugin?_of_growsTo h hp, hpf⟩
  | none =>
    simp only [hplugin] at hf ⊢
    exact List.IsPrefix.findSome?_eq_some h hf

/-- **Where the plugin was there, a lookup finds what it found and no more.** -/
theorem get?_eq_of_growsTo (h : r.GrowsTo s) {q : String} (hq : q ≠ "")
    (hp : (r.plugin? q).isSome = true) (n : String) : s.get? (some q) n = r.get? (some q) n := by
  obtain ⟨p, hp⟩ := Option.isSome_iff_exists.1 hp
  simp only [get?, Metadata.namedPlugin_some_of_ne hq, hp, plugin?_of_growsTo h hp]

theorem contains_of_growsTo (h : r.GrowsTo s) {m : Metadata} (hm : r.contains m = true) :
    s.contains m = true := by
  obtain ⟨f, hf⟩ := Option.isSome_iff_exists.1 hm
  exact Option.isSome_iff_exists.2 ⟨f, get?_of_growsTo h hf⟩

end Registry

/-! ## Names and configurations -/

section

variable {r s : Registry}

/-- A name keeps its meaning when it is read without asking the registry. -/
theorem Naming.Policy.resolve_of_growsTo {policy : Naming.Policy} (hreader : policy.reader = none)
    (h : r.GrowsTo s) {fqn : String} {f : Callable} (hf : policy.resolve fqn r = some f) :
    policy.resolve fqn s = some f := by
  have hparse : policy.parse fqn (some s) = policy.parse fqn (some r) := by
    simp only [Naming.Policy.parse, hreader]
  rw [Naming.Policy.resolve, hparse]
  exact Registry.get?_of_growsTo h hf

/-- What could be invoked still can. -/
theorem Choice.Behavior.checkInvocable_of_growsTo (h : r.GrowsTo s) {functions : List Callable}
    (hcheck : checkInvocable functions (some r) = .ok ()) :
    checkInvocable functions (some s) = .ok () := by
  obtain ⟨r', hr', hall⟩ := checkInvocable_eq_ok_iff.1 hcheck
  obtain rfl := Option.some.inj hr'
  exact checkInvocable_eq_ok_iff.2
    ⟨s, rfl, fun f hf => Registry.contains_of_growsTo h (hall f hf)⟩

/-- A behavior with a list of its own comes to what it came to. -/
theorem Choice.Behavior.configuration_of_growsTo (h : r.GrowsTo s) {b : Behavior}
    {functions : List Callable} (hfunctions : b.functions = some functions)
    (hselector : b.selector = none) {history : History} {c : Configuration}
    (hc : b.configuration (some r) history = .ok c) :
    b.configuration (some s) history = .ok c := by
  -- the list and nothing else makes the candidates
  have hcandidates : ∀ registry, b.candidates registry history = functions := by
    intro registry
    simp only [candidates, base, hselector, hfunctions]
  obtain ⟨hcheck, rfl⟩ := configuration_eq_ok_iff.1 hc
  refine configuration_eq_ok_iff.2 ⟨?_, ?_⟩
  · intro hauto
    have hchecked := hcheck hauto
    rw [hcandidates] at hchecked ⊢
    exact checkInvocable_of_growsTo h hchecked
  · rw [hcandidates, hcandidates]

end

/-! ## Steps and runs -/

namespace Registration

/-- **A step lets the registry grow**, if only by nothing, unless it exchanges the registry. -/
theorem growsTo_apply (s : Registration) {step : Step} (h : step ≠ .restore) :
    s.registry.GrowsTo (s.apply step).2.registry := by
  cases step with
  | create _ _ | createFrom _ _ | copy _ | describe _ _ =>
    simp only [apply]
    split
    · exact .refl _
    · exact .refl _
  | add plugin function =>
    simp only [apply]
    split
    · exact .refl _
    · split
      · exact .refl _
      · exact .refl _
  | register plugin =>
    simp only [apply]
    split
    · exact .refl _
    · split
      · exact .refl _
      next r hadd => exact Registry.growsTo_of_add hadd
  | addFunctions name functions =>
    simp only [apply]
    split
    · exact .refl _
    next r hadded =>
      obtain ⟨p, -, hadd⟩ := Registry.addDrafts_eq_ok_iff.1 hadded
      exact Registry.growsTo_of_add hadd
  | save => exact .refl _
  | restore => exact absurd rfl h

/-- **So does a run.** -/
theorem growsTo_run (s : Registration) {steps : List Step} (h : ∀ step ∈ steps, step ≠ .restore) :
    s.registry.GrowsTo (s.run steps).registry := by
  induction steps generalizing s with
  | nil => exact .refl _
  | cons step steps ih =>
    obtain ⟨hstep, hsteps⟩ := List.forall_mem_cons.1 h
    exact (growsTo_apply s hstep).trans (ih (s.apply step).2 hsteps)

end Registration

/-- **Registering more redirects nothing.**  Let any plugins be put into the registry of a host, one
    after the other and with whatever success.  Then, of the registry before and the one after,

    1. the functions of the one are the first of those of the other;
    2. a lookup that found a function finds the same one, with a plugin or without;
    3. a lookup in a plugin that was there finds what it found, or nothing as before;
    4. a name that stood for a function stands for the same one, under every policy without a
       reader of its own;
    5. a behavior with a list of functions and no selector that came to a configuration comes to
       the same one. -/
theorem registering_redirects_nothing (s : Registration) {more : List Registration.Step}
    (hmore : ∀ step ∈ more, step ≠ .restore) :
    let r := s.registry
    let r' := (s.run more).registry
    r.functions <+: r'.functions ∧
    (∀ plugin n f, r.get? plugin n = some f → r'.get? plugin n = some f) ∧
    (∀ q n, q ≠ "" → (r.plugin? q).isSome = true → r'.get? (some q) n = r.get? (some q) n) ∧
    (∀ (policy : Naming.Policy) (fqn : String) (f : Callable), policy.reader = none →
      policy.resolve fqn r = some f → policy.resolve fqn r' = some f) ∧
    ∀ (b : Behavior) (functions : List Callable) (history : History) (c : Configuration),
      b.functions = some functions → b.selector = none →
      b.configuration (some r) history = .ok c → b.configuration (some r') history = .ok c := by
  intro r r'
  have hgrows : r.GrowsTo r' := Registration.growsTo_run s hmore
  refine ⟨Registry.functions_prefix_of_growsTo hgrows, ?_, ?_, ?_, ?_⟩
  · intro plugin n f hf
    exact Registry.get?_of_growsTo hgrows hf
  · intro q n hq hp
    exact Registry.get?_eq_of_growsTo hgrows hq hp n
  · intro policy fqn f hreader hf
    exact Naming.Policy.resolve_of_growsTo hreader hgrows hf
  · intro b functions history c hfunctions hselector hc
    exact Behavior.configuration_of_growsTo hgrows hfunctions hselector hc

/-- A plugin that is there already is refused, and one with a namesake of a registered function is
    put behind.  The bare name means what it meant, to lookups and to a behavior; the plugin that
    was there does not have what the other one brought. -/
theorem registering_redirects_nothing_namesake :
    let s : Registration := Registration.start.run [.addFunctions "Math" [.echo "Add", .echo "Sub"]]
    let more : List Registration.Step := [.addFunctions "MATH" [.echo "Now"], .create "Time" none,
      .add 0 (.echo "ADD"), .add 0 (.echo "Now"), .register 0, .register 0, .register 7]
    let r' := (s.run more).registry
    let add : Callable := .ofMember 0 "Math" (.echo "Add")
    let bare : Callable := .ofDraft 9 (.echo "add")
    r'.functions.map Callable.qualifiedName = ["Math.Add", "Math.Sub", "Time.ADD", "Time.Now"] ∧
      r'.get? none "ADD" = some add ∧ (r'.get? none "now").isSome = true ∧
      r'.get? (some "math") "now" = none ∧
      Naming.Policy.default.resolve "MATH-ADD" r' = some add ∧
      (Behavior.default.withFunctions [bare]).configuration (some r') [] =
        .ok ⟨.auto, [bare], true, false⟩ := by
  intro s more r' add bare
  have hmore : ∀ step ∈ more, step ≠ .restore := by
    simp [more]
  obtain ⟨-, hget, hplugin, hresolve, hconfiguration⟩ := registering_redirects_nothing s hmore
  have hbare : (Behavior.default.withFunctions [bare]).configuration (some s.registry) [] =
      .ok ⟨.auto, [bare], true, false⟩ := by
    refine Behavior.configuration_eq_ok_iff.2 ⟨fun _ => ?_, rfl⟩
    exact Behavior.checkInvocable_eq_ok_iff.2 ⟨s.registry, rfl, by decide⟩
  have hadd : Naming.Policy.default.resolve "MATH-ADD" s.registry = some add := by
    have hparse : Naming.Policy.default.parse "MATH-ADD" (some s.registry) =
        ⟨some "MATH", "ADD"⟩ := by
      decide +kernel
    rw [Naming.Policy.resolve, hparse]
    rfl
  refine ⟨by decide +kernel, hget none "ADD" add rfl, by decide +kernel, ?_,
    hresolve .default "MATH-ADD" add rfl hadd, hconfiguration _ [bare] [] _ rfl rfl hbare⟩
  exact hplugin "math" "now" (by decide) (by decide)

/-- A name that is read by asking the registry can be redirected: a split that is tried earlier
    comes to stand for a function. -/
example :
    let s : Registration := Registration.start.run [.addFunctions "a_b" [.echo "c"]]
    let s' := s.run [.addFunctions "a" [.echo "b_c"]]
    let policy : Naming.Policy := ⟨"-", false, some (Naming.trySeparators ["_"])⟩
    (policy.resolve "a_b_c" s.registry).map Callable.qualifiedName = some "a_b.c" ∧
      (policy.resolve "a_b_c" s'.registry).map Callable.qualifiedName = some "a.b_c" := by
  decide +kernel

end FunctionCalling
