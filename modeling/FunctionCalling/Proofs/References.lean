/-
  What settings refer to.

  Settings refer to functions as `Plugin.Function` or by a bare name.  A behavior is made of them
  once, and comes to a configuration for each request; what can fail should fail at once.

  1. A reference stands for what the registry holds in the plugin before the FIRST dot, or for the
     first function of a bare name (`Registry.Refers`).  That is how a policy reads a name when the
     separator is a dot (`resolveReference_eq`), so a reference may be written in any case, and as
     no name holds a dot, the name under which people know a function refers to it
     (`refers_of_sameName_qualifiedName`).
  2. References are refused for the first that stands for nothing (`resolveReferences_eq_error_iff`)
     and otherwise give one function each, in order (`resolveReferences_eq_ok_iff`).
  3. What a reference stands for is a function of the registry, and each of these is found again
     under the names in its metadata.  So the check that is made for every request has nothing
     left to refuse (`configuration_setAll_of_mem`).
-/
import FunctionCalling.Proofs.Configurations
import FunctionCalling.Proofs.FurtherSeparators
import FunctionCalling.Proofs.Recasing

namespace FunctionCalling

open FunctionCalling.Choice (Behavior Mode Setting)
open FunctionCalling.Text

/-! ## Lists side by side -/

/-- What stands in the second of two lists that correspond has something to correspond to. -/
theorem exists_left_of_forall₂ {α β : Type} {R : α → β → Prop} {as : List α} {bs : List β}
    (h : List.Forall₂ R as bs) {b : β} (hb : b ∈ bs) : ∃ a ∈ as, R a b := by
  induction h with
  | nil => cases hb
  | @cons a _ as _ hab _ ih =>
    rcases List.mem_cons.1 hb with rfl | hb
    · exact ⟨a, List.mem_cons_self, hab⟩
    · obtain ⟨a', ha', hrel⟩ := ih hb
      exact ⟨a', List.mem_cons_of_mem a ha', hrel⟩

/-! ## Splitting at a character -/

namespace Text

/-- A split at a character is at the first place where it stands. -/
theorem splitFirst_singleton_eq_some_iff {c : Char} {s before rest : List Char} :
    splitFirst [c] s = some (before, rest) ↔ s = before ++ c :: rest ∧ c ∉ before := by
  induction s generalizing before with
  | nil => simp [splitFirst, dropLead?]
  | cons d s ih =>
    by_cases h : c = d
    · subst h
      simp only [splitFirst, dropLead?, if_true, Option.some.injEq, Prod.mk.injEq]
      constructor
      · rintro ⟨rfl, rfl⟩
        exact ⟨rfl, List.not_mem_nil⟩
      · rintro ⟨hjoin, hfirst⟩
        -- a longer beginning would hold the character itself
        cases before with
        | nil => exact ⟨rfl, (List.cons.inj hjoin).2⟩
        | cons e before =>
          obtain ⟨rfl, -⟩ := List.cons.inj hjoin
          exact absurd List.mem_cons_self hfirst
    · simp only [splitFirst, dropLead?, if_neg h, Option.map_eq_some_iff, Prod.mk.injEq]
      constructor
      · rintro ⟨⟨before', rest'⟩, hsplit, rfl, rfl⟩
        obtain ⟨rfl, hfirst⟩ := ih.1 hsplit
        exact ⟨rfl, List.not_mem_cons_of_ne_of_not_mem h hfirst⟩
      · rintro ⟨hjoin, hfirst⟩
        cases before with
        | nil => exact absurd (List.cons.inj hjoin).1.symm h
        | cons e before =>
          obtain ⟨rfl, rfl⟩ := List.cons.inj hjoin
          have hrest : c ∉ before := fun hmem => hfirst (List.mem_cons_of_mem _ hmem)
          exact ⟨⟨before, rest⟩, ih.2 ⟨rfl, hrest⟩, rfl, rfl⟩

theorem splitFirst_singleton_eq_none_iff {c : Char} {s : List Char} :
    splitFirst [c] s = none ↔ c ∉ s := by
  constructor
  · intro hnone hmem
    obtain ⟨before, rest, rfl⟩ := List.append_of_mem hmem
    have hsome := isSome_splitFirst before [c] rest
    rw [List.append_assoc, List.singleton_append, hnone] at hsome
    cases hsome
  · intro hmem
    cases hsplit : splitFirst [c] s with
    | none => rfl
    | some parts =>
      obtain ⟨rfl, -⟩ := splitFirst_singleton_eq_some_iff.1 hsplit
      exact absurd (by simp) hmem

end Text

/-! ## What a reference stands for -/

/-- A reference to a function of a registry: its name behind that of a plugin and a dot, where the
    dot is the first one, or its name alone, which holds no dot. -/
inductive Registry.Refers (r : Registry) : String → Callable → Prop where
  | qualified {plugin n : String} {f : Callable} (hdot : '.' ∉ plugin.toList)
      (hfound : r.get? (some plugin) n = some f) : r.Refers (plugin ++ "." ++ n) f
  | bare {n : String} {f : Callable} (hdot : '.' ∉ n.toList)
      (hfound : r.get? none n = some f) : r.Refers n f

namespace Registry

/-- Names are read as references are when the separator is a dot. -/
theorem refers_iff {r : Registry} {reference : String} {f : Callable} :
    r.Refers reference f ↔ (Naming.split "." reference).resolve r = some f := by
  have hne : "." ≠ "" := by decide
  have hlist : ".".toList = ['.'] := by decide
  constructor
  · intro h
    cases h with
    | @qualified plugin n _ hdot hfound =>
      have hjoin : (plugin ++ "." ++ n).toList = plugin.toList ++ '.' :: n.toList := by
        simp [hlist]
      have hsplit := splitFirst_singleton_eq_some_iff.2 ⟨hjoin, hdot⟩
      rw [Naming.split_of_splitFirst hne hsplit, Naming.ofParts_toList]
      exact hfound
    | bare hdot hfound =>
      have hsplit := splitFirst_singleton_eq_none_iff.2 hdot
      rw [Naming.split, hlist, hsplit, ite_self]
      exact hfound
  · intro hfound
    cases hsplit : splitFirst ['.'] reference.toList with
    | some parts =>
      obtain ⟨hjoin, hdot⟩ := splitFirst_singleton_eq_some_iff.1 hsplit
      rw [← hlist] at hsplit
      rw [Naming.split_of_splitFirst hne hsplit] at hfound
      have hreference : reference = String.ofList parts.1 ++ "." ++ String.ofList parts.2 := by
        rw [← String.toList_inj, hjoin]
        simp [hlist]
      rw [hreference]
      exact .qualified (by simpa using hdot) hfound
    | none =>
      have hdot := splitFirst_singleton_eq_none_iff.1 hsplit
      rw [← hlist] at hsplit
      rw [Naming.split, hsplit, ite_self] at hfound
      exact .bare hdot hfound

/-- What a reference stands for is a function of the registry. -/
theorem Refers.mem {r : Registry} {reference : String} {f : Callable}
    (h : r.Refers reference f) : f ∈ r.functions := by
  cases h with
  | qualified _ hfound => exact (mem_and_sameName_of_get? hfound).1
  | bare _ hfound => exact (mem_and_sameName_of_get? hfound).1

/-- **The name under which people know a function refers to it**, in whatever case. -/
theorem refers_of_sameName_qualifiedName {r : Registry} (hr : r.WellFormed) {f : Callable}
    (hf : f ∈ r.functions) {reference : String}
    (h : sameName reference f.qualifiedName = true) : r.Refers reference f := by
  obtain ⟨p, hp, hfp⟩ := mem_functions_iff.1 hf
  have hplugin : f.plugin = some p.name := plugin_of_mem hr hp hfp
  have hwf := hr.plugins p hp
  have hjoin : f.qualifiedName = p.name ++ "." ++ f.name := by
    have hnamed : Metadata.namedPlugin f.metadata.pluginName = some p.name := hplugin
    simp only [Callable.qualifiedName, Metadata.qualifiedName, Metadata.qualify, hnamed]
    rfl
  have hsplit : Naming.split "." f.qualifiedName = ⟨some p.name, f.name⟩ := by
    rw [hjoin]
    exact Naming.split_join (by decide) hwf.isName (hwf.members_isName f hfp)
  have hfold : (Naming.split "." reference).fold = (Naming.split "." f.qualifiedName).fold := by
    rw [← Naming.split_fold (by decide), ← Naming.split_fold (by decide), sameName_iff.1 h]
  rw [refers_iff, ← Naming.Parsed.resolve_fold, hfold, Naming.Parsed.resolve_fold, hsplit]
  exact hplugin ▸ get?_self hr hf

/-- The same of several functions. -/
theorem forall₂_refers_of_qualifiedName {r : Registry} (hr : r.WellFormed)
    {references : List String} {fs : List Callable} (hmem : ∀ f ∈ fs, f ∈ r.functions)
    (h : List.Forall₂ (fun x f => sameName x (Callable.qualifiedName f) = true) references fs) :
    List.Forall₂ r.Refers references fs := by
  induction h with
  | nil => exact .nil
  | @cons x f _ fs hname _ ih =>
    have hf : f ∈ r.functions := hmem f List.mem_cons_self
    exact .cons (refers_of_sameName_qualifiedName hr hf hname)
      (ih fun g hg => hmem g (List.mem_cons_of_mem f hg))

end Registry

/-! ## Several references -/

namespace BehaviorSettings

/-- A reference is looked up as a name that is split at a dot. -/
theorem resolveReference_eq (r : Registry) (reference : String) :
    resolveReference (some r) reference =
      match (Naming.split "." reference).resolve r with
      | some f => .ok f
      | none => .error (.functionNotFound reference) := by
  have hparts : splitReference reference =
      ((Naming.split "." reference).plugin, (Naming.split "." reference).function) := by
    have hlist : ".".toList = ['.'] := by decide
    rw [splitReference, Naming.split, hlist]
    cases splitFirst ['.'] reference.toList <;> rfl
  simp only [resolveReference, hparts]
  rfl

theorem resolveReference_eq_ok_iff {r : Registry} {reference : String} {f : Callable} :
    resolveReference (some r) reference = .ok f ↔ r.Refers reference f := by
  rw [resolveReference_eq, Registry.refers_iff]
  cases (Naming.split "." reference).resolve r <;> simp

theorem resolveReference_eq_error_iff {r : Registry} {reference : String} {fault : Error} :
    resolveReference (some r) reference = .error fault ↔
      (∀ f, ¬ r.Refers reference f) ∧ fault = .functionNotFound reference := by
  simp only [resolveReference_eq, Registry.refers_iff]
  cases (Naming.split "." reference).resolve r <;> simp [eq_comm]

/-- References that all stand for something give one function each, in order. -/
theorem resolveReferences_eq_ok_iff {registry : Option Registry} {references : List String}
    {fs : List Callable} :
    resolveReferences registry references = .ok fs ↔
      List.Forall₂ (fun x f => resolveReference registry x = .ok f) references fs := by
  induction references generalizing fs with
  | nil => cases fs <;> simp [resolveReferences]
  | cons reference rest ih =>
    cases hfirst : resolveReference registry reference with
    | error fault => cases fs <;> simp [resolveReferences, hfirst, bind, Except.bind]
    | ok f =>
      cases hrest : resolveReferences registry rest with
      | error fault =>
        cases fs <;> simp [resolveReferences, hfirst, hrest, ← ih, bind, Except.bind]
      | ok others =>
        cases fs <;> simp [resolveReferences, hfirst, hrest, ← ih, bind, Except.bind, pure,
          Except.pure]

/-- Over a registry, each of these is what the reference stands for. -/
theorem resolveReferences_some_eq_ok_iff {r : Registry} {references : List String}
    {fs : List Callable} :
    resolveReferences (some r) references = .ok fs ↔ List.Forall₂ r.Refers references fs := by
  simp only [resolveReferences_eq_ok_iff, resolveReference_eq_ok_iff]

theorem resolveReferences_cons_eq_error_iff {registry : Option Registry} {reference : String}
    {rest : List String} {fault : Error} :
    resolveReferences registry (reference :: rest) = .error fault ↔
      resolveReference registry reference = .error fault ∨
        (∃ f, resolveReference registry reference = .ok f) ∧
          resolveReferences registry rest = .error fault := by
  cases hfirst : resolveReference registry reference with
  | error fault' => simp [resolveReferences, hfirst, bind, Except.bind]
  | ok f =>
    cases hrest : resolveReferences registry rest <;>
      simp [resolveReferences, hfirst, hrest, bind, Except.bind, pure, Except.pure]

/-- References are refused for the first that is. -/
theorem resolveReferences_eq_error_iff {registry : Option Registry} {references : List String}
    {fault : Error} :
    resolveReferences registry references = .error fault ↔
      ∃ before x after, references = before ++ x :: after ∧
        (∀ y ∈ before, ∃ f, resolveReference registry y = .ok f) ∧
        resolveReference registry x = .error fault := by
  induction references with
  | nil => simp [resolveReferences]
  | cons reference rest ih =>
    rw [resolveReferences_cons_eq_error_iff, ih]
    constructor
    · rintro (hfirst | ⟨hgood, before, x, after, rfl, hbefore, hx⟩)
      · exact ⟨[], reference, rest, rfl, by simp, hfirst⟩
      · refine ⟨reference :: before, x, after, rfl, ?_, hx⟩
        intro y hy
        rcases List.mem_cons.1 hy with rfl | hy
        · exact hgood
        · exact hbefore y hy
    · rintro ⟨before, x, after, hsplit, hbefore, hx⟩
      cases before with
      | nil =>
        obtain ⟨rfl, -⟩ := List.cons.inj hsplit
        exact Or.inl hx
      | cons y before =>
        obtain ⟨rfl, rfl⟩ := List.cons.inj hsplit
        refine Or.inr ⟨hbefore reference List.mem_cons_self, before, x, after, rfl, ?_, hx⟩
        exact fun z hz => hbefore z (List.mem_cons_of_mem _ hz)

/-! ## Behaviors from settings -/

/-- What settings say, with the functions that their references stand for. -/
def said (s : BehaviorSettings) (functions : Option (List Callable)) : List Setting :=
  [.autoInvoke s.autoInvoke, .allowAny s.allowAny] ++ (functions.map Setting.functions).toList

theorem toBehavior_of_none {s : BehaviorSettings} (h : s.functions = none)
    (registry : Option Registry) :
    s.toBehavior registry = .ok ((Behavior.ofMode s.mode).setAll (s.said none)) := by
  simp only [toBehavior, h]
  rfl

theorem toBehavior_of_some {s : BehaviorSettings} {references : List String}
    (h : s.functions = some references) (registry : Option Registry) :
    s.toBehavior registry = (resolveReferences registry references).map fun fs =>
      (Behavior.ofMode s.mode).setAll (s.said (some fs)) := by
  simp only [toBehavior, h]
  cases resolveReferences registry references <;> rfl

/-- Settings are refused for a reference, and only for one. -/
theorem toBehavior_eq_error_iff {s : BehaviorSettings} {registry : Option Registry}
    {fault : Error} :
    s.toBehavior registry = .error fault ↔
      ∃ references, s.functions = some references ∧
        resolveReferences registry references = .error fault := by
  cases h : s.functions with
  | none => simp [toBehavior_of_none h]
  | some references =>
    rw [toBehavior_of_some h]
    cases hresolved : resolveReferences registry references <;> simp [Except.map, hresolved]

/-- Otherwise they make a behavior of what they say. -/
theorem toBehavior_eq_ok_iff {s : BehaviorSettings} {registry : Option Registry} {b : Behavior} :
    s.toBehavior registry = .ok b ↔
      (s.functions = none ∧ b = (Behavior.ofMode s.mode).setAll (s.said none)) ∨
      ∃ references fs, s.functions = some references ∧
        resolveReferences registry references = .ok fs ∧
        b = (Behavior.ofMode s.mode).setAll (s.said (some fs)) := by
  cases h : s.functions with
  | none => simp [toBehavior_of_none h, eq_comm]
  | some references =>
    rw [toBehavior_of_some h]
    cases hresolved : resolveReferences registry references <;>
      simp [Except.map, hresolved, eq_comm]

/-! ### References that are refused -/

/-- Over a registry, settings are refused for the first reference that stands for nothing. -/
theorem toBehavior_eq_error_iff_first {s : BehaviorSettings} {r : Registry} {fault : Error} :
    s.toBehavior (some r) = .error fault ↔
      ∃ before x after, s.functions = some (before ++ x :: after) ∧
        (∀ y ∈ before, ∃ f, r.Refers y f) ∧ (∀ f, ¬ r.Refers x f) ∧
        fault = .functionNotFound x := by
  simp only [toBehavior_eq_error_iff, resolveReferences_eq_error_iff, resolveReference_eq_ok_iff,
    resolveReference_eq_error_iff]
  constructor
  · rintro ⟨_, hfunctions, before, x, after, rfl, hbefore, hx⟩
    exact ⟨before, x, after, hfunctions, hbefore, hx⟩
  · rintro ⟨before, x, after, hfunctions, hbefore, hx⟩
    exact ⟨_, hfunctions, before, x, after, rfl, hbefore, hx⟩

/-- Some reference stands for nothing exactly when there is a first that does. -/
theorem exists_toBehavior_eq_error_iff {s : BehaviorSettings} {r : Registry} :
    (∃ fault, s.toBehavior (some r) = .error fault) ↔
      ∃ references, s.functions = some references ∧ ∃ x ∈ references, ∀ f, ¬ r.Refers x f := by
  constructor
  · rintro ⟨fault, hrefused⟩
    obtain ⟨before, x, after, hfunctions, -, hx, -⟩ := toBehavior_eq_error_iff_first.1 hrefused
    exact ⟨_, hfunctions, x, by simp, hx⟩
  · rintro ⟨references, hfunctions, x, hmem, hx⟩
    cases hmade : s.toBehavior (some r) with
    | error fault => exact ⟨fault, rfl⟩
    | ok b =>
      -- every reference would stand for something
      rw [toBehavior_of_some hfunctions] at hmade
      cases hresolved : resolveReferences (some r) references with
      | error fault =>
        rw [hresolved] at hmade
        cases hmade
      | ok fs =>
        have hall := (resolveReferences_some_eq_ok_iff.1 hresolved).flip (R := flip r.Refers)
        obtain ⟨f, -, hf⟩ := exists_left_of_forall₂ hall hmem
        exact absurd hf (hx f)

/-- Without a registry no reference stands for anything. -/
theorem exists_toBehavior_none_iff {s : BehaviorSettings} :
    (∃ b, s.toBehavior none = .ok b) ↔ s.functions = none ∨ s.functions = some [] := by
  cases h : s.functions with
  | none => simp [toBehavior_of_none h]
  | some references =>
    rw [toBehavior_of_some h]
    cases references with
    | nil => simp [resolveReferences, Except.map]
    | cons reference rest =>
      simp [resolveReferences, resolveReference, bind, Except.bind, Except.map]

end BehaviorSettings

namespace Choice.Behavior

/-- A behavior of which all functions are functions of the registry comes to a configuration,
    however it was made. -/
theorem configuration_setAll_of_mem {r : Registry} (hr : r.WellFormed) (mode : Mode)
    (settings : List Setting) (history : History)
    (h : ∀ f ∈ requestedFunctions settings (some r) history, f ∈ r.functions) :
    ((ofMode mode).setAll settings).configuration (some r) history =
      .ok ⟨mode, requestedFunctions settings (some r) history, requestsInvocation mode settings,
        requestsAny mode settings⟩ := by
  rw [configuration_eq_ok_iff, candidates_setAll, permission_ofMode_setAll, mode_setAll,
    mode_ofMode]
  refine ⟨fun _ => ?_, rfl⟩
  refine checkInvocable_eq_ok_iff.2 ⟨r, rfl, ?_⟩
  intro f hf
  exact Option.isSome_iff_exists.2 ⟨f, Registry.get?_self hr (h f hf)⟩

end Choice.Behavior

namespace BehaviorSettings

/-- What settings come to for a request. -/
theorem configuration_said {r : Registry} (hr : r.WellFormed) (s : BehaviorSettings)
    (functions : Option (List Callable)) (h : ∀ fs, functions = some fs → ∀ f ∈ fs, f ∈ r.functions)
    (history : History) :
    ((Behavior.ofMode s.mode).setAll (s.said functions)).configuration (some r) history =
      .ok ⟨s.mode, functions.getD r.functions, s.mode ≠ .none && s.autoInvoke,
        s.mode ≠ .none && s.allowAny⟩ := by
  have hrequested : Choice.requestedFunctions (s.said functions) (some r) history =
      functions.getD r.functions := by
    cases functions <;> rfl
  have hinvocation : Choice.requestsInvocation s.mode (s.said functions) =
      (s.mode ≠ .none && s.autoInvoke) := by
    cases functions <;> rfl
  have hany : Choice.requestsAny s.mode (s.said functions) =
      (s.mode ≠ .none && s.allowAny) := by
    cases functions <;> rfl
  have hmem : ∀ f ∈ Choice.requestedFunctions (s.said functions) (some r) history,
      f ∈ r.functions := by
    rw [hrequested]
    cases functions with
    | none => exact fun f hf => hf
    | some fs => exact h fs rfl
  rw [Behavior.configuration_setAll_of_mem hr _ _ _ hmem, hrequested, hinvocation, hany]

end BehaviorSettings

/-- **Settings fail at once or not at all.**  Over a registry that was built,

    1. settings make no behavior exactly when some reference stands for nothing, and the fault then
       carries the first such reference as it is written;
    2. a behavior they make comes to a configuration for every request: of their mode, with the
       functions that the references stand for, one for each and in order, or all functions of the
       registry when there are no references to be had, and with their flags, which count for
       nothing under the mode `none`;
    3. references that are the names under which people know some functions of the registry, in
       any case, make a behavior that offers just these functions;
    4. without a registry settings make a behavior exactly when there are no references, or none in
       the list. -/
theorem settings_fail_at_once {r : Registry} (hr : r.Built) (s : BehaviorSettings) :
    ((∃ fault, s.toBehavior (some r) = .error fault) ↔
      ∃ references, s.functions = some references ∧ ∃ x ∈ references, ∀ f, ¬ r.Refers x f) ∧
    (∀ fault, s.toBehavior (some r) = .error fault ↔
      ∃ before x after, s.functions = some (before ++ x :: after) ∧
        (∀ y ∈ before, ∃ f, r.Refers y f) ∧ (∀ f, ¬ r.Refers x f) ∧
        fault = .functionNotFound x) ∧
    (∀ b, s.toBehavior (some r) = .ok b → ∀ history, ∃ c,
      b.configuration (some r) history = .ok c ∧ c.mode = s.mode ∧
      c.autoInvoke = (s.mode ≠ .none && s.autoInvoke) ∧
      c.allowAny = (s.mode ≠ .none && s.allowAny) ∧
      (s.functions = none → c.functions = r.functions) ∧
      ∀ references, s.functions = some references →
        List.Forall₂ r.Refers references c.functions) ∧
    (∀ fs references, (∀ f ∈ fs, f ∈ r.functions) →
      List.Forall₂ (fun x f => sameName x (Callable.qualifiedName f) = true) references fs →
      s.functions = some references →
      ∃ b, s.toBehavior (some r) = .ok b ∧
        ∀ history, ∃ c, b.configuration (some r) history = .ok c ∧ c.functions = fs) ∧
    ((∃ b, s.toBehavior none = .ok b) ↔ s.functions = none ∨ s.functions = some []) := by
  have hwf := hr.wellFormed
  refine ⟨BehaviorSettings.exists_toBehavior_eq_error_iff,
    fun fault => BehaviorSettings.toBehavior_eq_error_iff_first, ?_, ?_,
    BehaviorSettings.exists_toBehavior_none_iff⟩
  · intro b hb history
    rcases BehaviorSettings.toBehavior_eq_ok_iff.1 hb with
      ⟨hnone, rfl⟩ | ⟨references, fs, hsome, hresolved, rfl⟩
    · refine ⟨_, s.configuration_said hwf none nofun history, rfl, rfl, rfl, fun _ => rfl, ?_⟩
      intro references hreferences
      rw [hnone] at hreferences
      cases hreferences
    · -- what was found once is in the registry, so nothing is refused later
      have hall := BehaviorSettings.resolveReferences_some_eq_ok_iff.1 hresolved
      have hmem : ∀ f ∈ fs, f ∈ r.functions := by
        intro f hf
        obtain ⟨x, -, hx⟩ := exists_left_of_forall₂ hall hf
        exact hx.mem
      refine ⟨_, s.configuration_said hwf (some fs) (fun _ h => Option.some.inj h ▸ hmem) history,
        rfl, rfl, rfl, ?_, ?_⟩
      · intro hnone
        rw [hsome] at hnone
        cases hnone
      · intro references' hreferences
        obtain rfl := Option.some.inj (hsome.symm.trans hreferences)
        exact hall
  · intro fs references hmem hnames hsome
    have hall := Registry.forall₂_refers_of_qualifiedName hwf hmem hnames
    have hresolved := BehaviorSettings.resolveReferences_some_eq_ok_iff.2 hall
    refine ⟨_, BehaviorSettings.toBehavior_eq_ok_iff.2
      (Or.inr ⟨references, fs, hsome, hresolved, rfl⟩), ?_⟩
    intro history
    exact ⟨_, s.configuration_said hwf (some fs) (fun _ h => Option.some.inj h ▸ hmem) history,
      rfl⟩

/-- Two namesakes are referred to by the names of their plugins, in other cases and in the other
    order; a third reference, with nothing before its dot, stands for nothing, and is named though
    the one after it is no better. -/
theorem settings_fail_at_once_namesakes :
    let first : Callable := .ofMember 0 "Math" (.echo "Add")
    let second : Callable := .ofMember 2 "My_Tools" (.echo "add")
    let good : List String := ["MY_TOOLS.Add", "math.add"]
    let settings (references : List String) : BehaviorSettings :=
      ⟨.required, some references, true, false⟩
    Registry.sample.Built ∧
      (∃ b, (settings good).toBehavior (some .sample) = .ok b ∧
        ∀ history, ∃ c, b.configuration (some .sample) history = .ok c ∧
          c.functions = [second, first]) ∧
      (settings (good ++ [".Nothing", "Other.Thing"])).toBehavior (some .sample) =
        .error (.functionNotFound ".Nothing") := by
  intro first second good settings
  have hbuilt := Registry.built_sample
  have hmem : ∀ f ∈ [second, first], f ∈ Registry.sample.functions := by
    rw [Registry.functions_sample]
    simp [first, second]
  have hnames : List.Forall₂ (fun x f => sameName x (Callable.qualifiedName f) = true) good
      [second, first] := .cons (by decide +kernel) (.cons (by decide +kernel) .nil)
  refine ⟨hbuilt, (settings_fail_at_once hbuilt (settings good)).2.2.2.1 _ _ hmem hnames rfl, ?_⟩
  refine ((settings_fail_at_once hbuilt (settings (good ++ [".Nothing", "Other.Thing"]))).2.1 _).2
    ⟨good, ".Nothing", ["Other.Thing"], rfl, ?_, ?_, rfl⟩
  · intro y hy
    have hall := Registry.forall₂_refers_of_qualifiedName hbuilt.wellFormed hmem hnames
    obtain ⟨f, -, hf⟩ := exists_left_of_forall₂ (hall.flip (R := flip Registry.sample.Refers)) hy
    exact ⟨f, hf⟩
  · intro f hf
    have hfound := Registry.refers_iff.1 hf
    have hnothing : (Naming.split "." ".Nothing").resolve .sample = none := rfl
    rw [hnothing] at hfound
    cases hfound

end FunctionCalling
