/-
  Calls by names that say nothing of a plugin.

  Under a policy by which functions go by their name alone, the name built for a function that is
  offered no longer says which function is meant: functions of several plugins may have it.  A
  call by the name means the FIRST of them, in the order in which the registry lists its functions,
  whichever was offered.

  1. There is always such a function, because the registry holds what is offered
     (`exists_first_of_configuration`); so a call by the name is never told that there is none.
  2. Whether the call is run depends on whether that first function was offered.  The function
     whose name was built is the first one if it has no plugin or no namesakes
     (`entry?_eq_first`); otherwise it may be another, and then a call by the very name that was
     offered may be refused as one that was not (`bare_name_not_offered`).
-/
import FunctionCalling.Proofs.Lookup
import FunctionCalling.Proofs.Offered

namespace FunctionCalling

open FunctionCalling.Choice (Behavior Configuration)
open FunctionCalling.Text

/-! ## What a bare name means -/

namespace Naming.Policy

/-- A bare name means the first function of the name. -/
theorem resolve_of_nameOnly {policy : Policy} (h : policy.nameOnly = true)
    (hreader : policy.reader = none) (n : String) (r : Registry) :
    policy.resolve n r = r.functions.find? fun g => sameName g.name n := by
  rw [resolve, parse_of_nameOnly h hreader]
  exact r.get?_none_eq_find? n

end Naming.Policy

/-- When calls are to be run, every function that is offered shares its name with some function of
    the registry. -/
theorem Choice.Behavior.exists_first_of_configuration {b : Behavior} {r : Registry}
    {history : History} {c : Configuration} (hc : b.configuration (some r) history = .ok c)
    (hauto : c.autoInvoke = true) {f : Callable} (hf : f ∈ c.functions) :
    ∃ first, (r.functions.find? fun g => sameName g.name f.name) = some first := by
  obtain ⟨e, he⟩ := Behavior.exists_entry?_of_configuration hc hauto hf
  obtain ⟨hmem, hname⟩ := Registry.mem_and_sameName_of_get? he
  refine Option.isSome_iff_exists.1 (List.find?_isSome.2 ⟨e, hmem, hname⟩)

/-- What the registry holds under the names of a function is the first function of its name, when
    the function has no plugin or the registry has no other function of the name. -/
theorem Registry.entry?_eq_first {r : Registry} {f first e : Callable}
    (hfirst : (r.functions.find? fun g => sameName g.name f.name) = some first)
    (he : r.entry? f.metadata = some e)
    (h : f.plugin = none ∨ ∀ g ∈ r.functions, sameName g.name f.name = true → g = first) :
    e = first := by
  rcases h with hplugin | hunique
  · have hget : r.get? none f.name = some e := hplugin ▸ he
    rw [get?_none_eq_find?] at hget
    exact Option.some.inj (hget.symm.trans hfirst)
  · obtain ⟨hmem, hname⟩ := mem_and_sameName_of_get? he
    exact hunique e hmem hname

/-- **A bare name means the first function of the name.**  Let functions go by their name alone,
    without a reader in place of the policy's own, and let a behavior come to a configuration over
    a built registry under which calls are run.  For every function that is offered,

    1. the name built for it stands for the first function of the registry that has it;
    2. that function counts as offered exactly when some function that is offered has names under
       which the registry holds it (callables of one identity being one callable); it does if the
       function whose name was built has no plugin, or if no other function of the registry has the
       name;
    3. whatever the limits and whichever validator checks arguments, a call by the name gets
       through if that function counts as offered or any function may be called, and otherwise
       enters no handler and is told that the function was not offered; in no case is it told that
       the function is not available. -/
theorem bare_name_means_first {r : Registry} (hr : r.Built) {policy : Naming.Policy}
    (hbare : policy.nameOnly = true) (hreader : policy.reader = none) {b : Behavior}
    {history : History} {c : Configuration} (hc : b.configuration (some r) history = .ok c)
    (hauto : c.autoInvoke = true) {f : Callable} (hf : f ∈ c.functions) :
    ∃ first, (r.functions.find? fun g => sameName g.name f.name) = some first ∧
      policy.resolve (policy.fqn f.metadata) r = some first ∧
      ((∃ g ∈ c.functions, r.entry? g.metadata = some first) → c.isAdvertised r first = true) ∧
      (Callable.ToldApart (r.functions ++ c.functions) → c.isAdvertised r first = true →
        ∃ g ∈ c.functions, r.entry? g.metadata = some first) ∧
      ((f.plugin = none ∨ ∀ g ∈ r.functions, sameName g.name f.name = true → g = first) →
        c.isAdvertised r first = true) ∧
      ∀ (limits : Limits) (validator : Schema.Validator) (now : Nat) (calls : List ToolCall)
        (i : Nat) (call : ToolCall),
        calls[i]? = some call → call.function.name = policy.fqn f.metadata →
        let inv : Invoker := ⟨r, policy, limits, validator⟩
        ∃ run, (inv.invoke c now calls).Answers i call run ∧
          (c.isAdvertised r first = true ∨ c.allowAny = true → run.GetsThrough inv first call) ∧
          (c.isAdvertised r first = false → c.allowAny = false →
            run.entries = [] ∧
              run.text = (Complaint.notOffered call.function.name).message) := by
  obtain ⟨first, hfirst⟩ := Behavior.exists_first_of_configuration hc hauto hf
  obtain ⟨e, he⟩ := Behavior.exists_entry?_of_configuration hc hauto hf
  have hmem : first ∈ r.functions := List.mem_of_find?_eq_some hfirst
  have hresolves : policy.resolve (policy.fqn f.metadata) r = some first := by
    rw [Naming.Policy.fqn_of_nameOnly hbare, Naming.Policy.resolve_of_nameOnly hbare hreader]
    exact hfirst
  refine ⟨first, hfirst, hresolves, ?_, ?_, ?_, ?_⟩
  · rintro ⟨g, hg, hentry⟩
    exact c.isAdvertised_of_entry? hg hentry
  · intro hid hoffered
    exact c.exists_entry?_of_isAdvertised hr hid hmem hoffered
  · intro hsingle
    obtain rfl := Registry.entry?_eq_first hfirst he hsingle
    exact c.isAdvertised_of_entry? hf he
  · intro limits validator now calls i call hcall hname inv
    rw [← hname] at hresolves
    by_cases hpassed : c.isAdvertised r first = true ∨ c.allowAny = true
    · obtain ⟨run, hanswers, hthrough⟩ := inv.exists_getsThrough hauto hpassed now hcall hresolves
      refine ⟨run, hanswers, fun _ => hthrough, ?_⟩
      intro hoffered hany
      simp [hoffered, hany] at hpassed
    · obtain ⟨hoffered, hany⟩ := not_or.1 hpassed
      rw [Bool.not_eq_true] at hoffered hany
      obtain ⟨o, hanswers⟩ :=
        inv.exists_refused_of_not_offered hauto hoffered hany now hcall hresolves
      exact ⟨_, hanswers, fun h => absurd h hpassed, fun _ _ => ⟨rfl, rfl⟩⟩

/-! ## Namesakes -/

namespace Registry

/-- The bare name of the second function of two that have one name but for case. -/
theorem resolve_sample : Naming.Policy.functionNameOnly.resolve "add" sample =
    some (.ofMember 0 "Math" (.echo "Add")) := by
  have hname : sameName (Callable.ofMember 0 "Math" (.echo "Add")).name "add" = true := by decide
  rw [Naming.Policy.resolve_of_nameOnly rfl rfl, functions_sample]
  exact List.find?_cons_of_pos hname

end Registry

/-- Only the second of two namesakes is offered; a call by its bare name means the first, and is
    refused. -/
theorem bare_name_not_offered :
    let f : Callable := .ofMember 2 "My_Tools" (.echo "add")
    let policy := Naming.Policy.functionNameOnly
    let c : Configuration := ⟨.auto, [f], true, false⟩
    let call : ToolCall := .ofFunction "1" "add" "\x7b\x7d"
    Registry.sample.Built ∧ policy.nameOnly = true ∧ policy.reader = none ∧
      (Behavior.default.withFunctions [f]).configuration (some .sample) [] = .ok c ∧
      c.autoInvoke = true ∧ f ∈ c.functions ∧ policy.fqn f.metadata = "add" ∧
      ¬ (∃ e, policy.resolve (policy.fqn f.metadata) .sample = some e ∧
        c.isAdvertised .sample e = true) ∧
      ∃ run, (Invoker.invoke ⟨.sample, policy, .default, .builtIn⟩ c 0 [call]).Answers 0 call run ∧
        run.entries = [] ∧
        run.text = "Error: function 'add' was not offered for this request." := by
  intro f policy c call
  have hc : (Behavior.default.withFunctions [f]).configuration (some .sample) [] = .ok c := by
    refine Behavior.configuration_eq_ok_iff.2 ⟨fun _ => ?_, rfl⟩
    exact Behavior.checkInvocable_eq_ok_iff.2 ⟨.sample, rfl, by decide⟩
  have hoffered : c.isAdvertised .sample (.ofMember 0 "Math" (.echo "Add")) = false := by decide
  refine ⟨Registry.built_sample, rfl, rfl, hc, rfl, List.mem_cons_self, rfl, ?_, ?_⟩
  · rintro ⟨e, he, hadvertised⟩
    obtain rfl := Option.some.inj (Registry.resolve_sample.symm.trans he)
    rw [hoffered] at hadvertised
    cases hadvertised
  · have hcall : [call][0]? = some call := rfl
    have htext : (Complaint.notOffered "add").message =
        "Error: function 'add' was not offered for this request." := by decide +kernel
    obtain ⟨o, hanswers⟩ := Invoker.exists_refused_of_not_offered
      ⟨.sample, policy, .default, .builtIn⟩ rfl hoffered rfl 0 hcall Registry.resolve_sample
    exact ⟨_, hanswers, rfl, htext⟩

/-- Both namesakes are offered; a call by the bare name of the second gets through to the first. -/
theorem bare_name_means_first_namesake :
    let f : Callable := .ofMember 2 "My_Tools" (.echo "add")
    let first : Callable := .ofMember 0 "Math" (.echo "Add")
    let policy := Naming.Policy.functionNameOnly
    let c : Configuration := ⟨.auto, [f, first], true, false⟩
    let call : ToolCall := .ofFunction "1" "add" "\x7b\x7d"
    let inv : Invoker := ⟨.sample, policy, .default, .builtIn⟩
    (Behavior.default.withFunctions [f, first]).configuration (some .sample) [] = .ok c ∧
      policy.fqn f.metadata = "add" ∧
      ∃ run, (inv.invoke c 0 [call]).Answers 0 call run ∧ run.GetsThrough inv first call := by
  intro f first policy c call inv
  have hbuilt := Registry.built_sample
  have hc : (Behavior.default.withFunctions [f, first]).configuration (some .sample) [] =
      .ok c := by
    refine Behavior.configuration_eq_ok_iff.2 ⟨fun _ => ?_, rfl⟩
    exact Behavior.checkInvocable_eq_ok_iff.2 ⟨.sample, rfl, by decide⟩
  have hmem : first ∈ Registry.sample.functions := by
    rw [Registry.functions_sample]
    exact List.mem_cons_self
  have hself : Registry.sample.entry? first.metadata = some first :=
    Registry.get?_self hbuilt.wellFormed hmem
  refine ⟨hc, rfl, ?_⟩
  have hbare : policy.nameOnly = true := rfl
  have hreader : policy.reader = none := rfl
  obtain ⟨e, -, he, hadvertised, -, -, hcalls⟩ :=
    bare_name_means_first hbuilt hbare hreader hc rfl List.mem_cons_self
  obtain rfl := Option.some.inj (Registry.resolve_sample.symm.trans he)
  obtain ⟨run, hanswers, hthrough, -⟩ := hcalls .default .builtIn 0 [call] 0 call rfl rfl
  have hoffered := hadvertised ⟨first, List.mem_cons_of_mem f List.mem_cons_self, hself⟩
  exact ⟨run, hanswers, hthrough (Or.inl hoffered)⟩

end FunctionCalling
