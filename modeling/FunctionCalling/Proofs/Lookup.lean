/-
  Looking up is searching the list of all functions.

  A lookup with a plugin finds the plugin first and then looks in it; a lookup without one asks
  plugin after plugin.  Either way the answer is the first function that goes by the names
  (`Callable.goesBy`), in the order in which the registry lists its functions:

  1. without a plugin this needs nothing: one search after the other, each stopping at its first
     hit, is one search through the lists put end to end (`get?_none_eq_find?`);
  2. with a plugin the two-level search gives up after the FIRST plugin of the name.  Nothing is
     missed, for no other plugin has that name and each function carries the name of the plugin it
     is in (`get?_some_eq_some_iff_is`).

  In case 2 at most one function goes by the names, so that "the first" may be left out.
-/
import FunctionCalling.Proofs.Registering

namespace FunctionCalling

open FunctionCalling.Text

/-! ## What is there once -/

/-- Where no element is twice and no two pass a test, at most one is left of those that do. -/
theorem length_filter_le_one_of_unique {α : Type} {l : List α} {p : α → Bool} (hl : l.Nodup)
    (hunique : ∀ a ∈ l, ∀ b ∈ l, p a = true → p b = true → a = b) :
    (l.filter p).length ≤ 1 := by
  have hnodup := hl.filter p
  have hmem : ∀ a ∈ l.filter p, a ∈ l ∧ p a = true := fun a ha => List.mem_filter.1 ha
  match hfilter : l.filter p with
  | [] => exact Nat.zero_le 1
  | [_] => exact Nat.le_refl 1
  | a :: b :: rest =>
    rw [hfilter] at hnodup hmem
    obtain ⟨ha, hpa⟩ := hmem a List.mem_cons_self
    obtain ⟨hb, hpb⟩ := hmem b (List.mem_cons_of_mem a List.mem_cons_self)
    obtain rfl := hunique a ha b hb hpa hpb
    exact absurd List.mem_cons_self (List.nodup_cons.1 hnodup).1

/-! ## Going by names -/

/-- Whether a function goes by the name of a plugin and a name of its own.  When no plugin is
    given, or an empty one, its own name is enough. -/
def Callable.goesBy (f : Callable) (plugin : Option String) (n : String) : Bool :=
  match Metadata.namedPlugin plugin with
  | some p => f.metadata.is (some p) n
  | none => sameName f.name n

namespace Callable

theorem goesBy_of_namedPlugin {plugin : Option String} {q : String}
    (h : Metadata.namedPlugin plugin = some q) (f : Callable) (n : String) :
    f.goesBy plugin n = f.metadata.is (some q) n := by
  simp only [goesBy, h]

theorem goesBy_of_namedPlugin_eq_none {plugin : Option String}
    (h : Metadata.namedPlugin plugin = none) (f : Callable) (n : String) :
    f.goesBy plugin n = sameName f.name n := by
  simp only [goesBy, h]

end Callable

namespace Registry

/-- A function of a registry is identified by the name of the plugin it is in and its own. -/
theorem is_iff_of_mem {r : Registry} (hr : r.WellFormed) {p : Plugin} (hp : p ∈ r.plugins)
    {f : Callable} (hf : f ∈ p.functions) {q : String} (hq : q ≠ "") {n : String} :
    f.metadata.is (some q) n = true ↔ sameName p.name q = true ∧ sameName f.name n = true := by
  have hplugin : f.metadata.plugin = some p.name := plugin_of_mem hr hp hf
  simp only [Metadata.is, hplugin, Metadata.namedPlugin_some_of_ne hq, Bool.and_eq_true]
  rfl

/-! ## Lookups as searches -/

/-- With a plugin, a lookup finds the function that the two names identify. -/
theorem get?_some_eq_some_iff_is {r : Registry} (hr : r.WellFormed) {q : String} (hq : q ≠ "")
    {n : String} {f : Callable} :
    r.get? (some q) n = some f ↔ f ∈ r.functions ∧ f.metadata.is (some q) n = true := by
  rw [get?_some_eq_some_iff hr hq, mem_functions_iff]
  constructor
  · rintro ⟨p, hp, hf, hnames⟩
    exact ⟨⟨p, hp, hf⟩, (is_iff_of_mem hr hp hf hq).2 hnames⟩
  · rintro ⟨⟨p, hp, hf⟩, his⟩
    exact ⟨p, hp, hf, (is_iff_of_mem hr hp hf hq).1 his⟩

/-- No two functions of a registry are identified by the same names: a lookup would have to find
    both. -/
theorem eq_of_is {r : Registry} (hr : r.WellFormed) {q : String} (hq : q ≠ "") {n : String} :
    ∀ f ∈ r.functions, ∀ g ∈ r.functions, f.metadata.is (some q) n = true →
      g.metadata.is (some q) n = true → f = g := by
  intro f hf g hg hfis hgis
  have hfoundf := (get?_some_eq_some_iff_is hr hq).2 ⟨hf, hfis⟩
  have hfoundg := (get?_some_eq_some_iff_is hr hq).2 ⟨hg, hgis⟩
  exact Option.some.inj (hfoundf.symm.trans hfoundg)

/-- Without a plugin, a lookup finds the first function of the name. -/
theorem get?_none_eq_find? (r : Registry) (n : String) :
    r.get? none n = r.functions.find? fun f => sameName f.name n := by
  rw [functions, List.find?_flatMap]
  rfl

/-- An empty plugin name is none. -/
theorem get?_empty (r : Registry) (n : String) : r.get? (some "") n = r.get? none n := rfl

/-- **A lookup is a search** through the list of all functions, for the first that goes by the
    names. -/
theorem get?_eq_find? {r : Registry} (hr : r.WellFormed) (plugin : Option String) (n : String) :
    r.get? plugin n = r.functions.find? fun f => f.goesBy plugin n := by
  cases hplugin : Metadata.namedPlugin plugin with
  | none =>
    have hget : r.get? plugin n = r.get? none n := by
      simp only [get?, hplugin, Metadata.namedPlugin_none]
    simp only [hget, get?_none_eq_find?, Callable.goesBy_of_namedPlugin_eq_none hplugin]
  | some q =>
    obtain ⟨rfl, hq⟩ := Metadata.namedPlugin_eq_some_iff.1 hplugin
    simp only [Callable.goesBy_of_namedPlugin hplugin]
    refine Option.ext fun f => ?_
    rw [get?_some_eq_some_iff_is hr hq, find?_eq_some_iff_of_unique (eq_of_is hr hq)]

/-- A registry holds a function under some names exactly when one of its functions goes by them. -/
theorem contains_iff {r : Registry} (hr : r.WellFormed) {m : Metadata} :
    r.contains m = true ↔ ∃ f ∈ r.functions, f.goesBy m.plugin m.name = true := by
  rw [contains, entry?, get?_eq_find? hr, List.find?_isSome]

end Registry

/-- **Looking up agrees with listing.**  In a registry that was built,

    1. a lookup with a plugin finds a function exactly when it is listed and the two names identify
       it, and no names identify more than one place in the list;
    2. a lookup without a plugin, or with an empty one, finds the first function of the name in the
       order of the list;
    3. every function that is listed is found under its own names, as itself;
    4. the registry holds something under the names in some metadata exactly when one of the
       functions that are listed goes by these names. -/
theorem lookup_iff_listed {r : Registry} (hr : r.Built) :
    (∀ p n, p ≠ "" →
      (∀ f, r.get? (some p) n = some f ↔ f ∈ r.functions ∧ f.metadata.is (some p) n = true) ∧
      (r.functions.filter fun f => f.metadata.is (some p) n).length ≤ 1) ∧
    (∀ n, r.get? none n = (r.functions.find? fun f => sameName f.name n) ∧
      r.get? (some "") n = r.functions.find? fun f => sameName f.name n) ∧
    (∀ f ∈ r.functions, r.get? f.plugin f.name = some f) ∧
    (∀ m, r.contains m = true ↔ ∃ f ∈ r.functions, f.goesBy m.plugin m.name = true) := by
  have hwf := hr.wellFormed
  refine ⟨?_, ?_, ?_, ?_⟩
  · intro p n hp
    refine ⟨fun f => Registry.get?_some_eq_some_iff_is hwf hp, ?_⟩
    exact length_filter_le_one_of_unique (Registry.nodup_functions hwf)
      (Registry.eq_of_is hwf hp)
  · intro n
    have hfirst := r.get?_none_eq_find? n
    exact ⟨hfirst, (r.get?_empty n).trans hfirst⟩
  · intro f hf
    exact Registry.get?_self hwf hf
  · intro m
    exact Registry.contains_iff hwf

/-- Two functions go by one name but for case: with the name of its plugin the second is found,
    without a plugin the first. -/
theorem lookup_iff_listed_recased :
    let first : Callable := .ofMember 0 "Math" (.echo "Add")
    let second : Callable := .ofMember 2 "My_Tools" (.echo "add")
    second ∈ Registry.sample.functions ∧ second.metadata.is (some "MY_TOOLS") "ADD" = true ∧
      Registry.sample.get? (some "MY_TOOLS") "ADD" = some second ∧
      Registry.sample.get? (some "") "ADD" = some first ∧
      Registry.sample.get? second.plugin second.name = some second := by
  intro first second
  obtain ⟨hnamed, hfirst, hself, -⟩ := lookup_iff_listed Registry.built_sample
  have hmem : second ∈ Registry.sample.functions := by
    rw [Registry.functions_sample]
    simp [second]
  have his : second.metadata.is (some "MY_TOOLS") "ADD" = true := by decide
  have hne : "MY_TOOLS" ≠ "" := by decide
  have hname : sameName first.name "ADD" = true := by decide
  refine ⟨hmem, his, ((hnamed "MY_TOOLS" "ADD" hne).1 second).2 ⟨hmem, his⟩, ?_, hself second hmem⟩
  rw [(hfirst "ADD").2, Registry.functions_sample]
  exact List.find?_cons_of_pos hname

end FunctionCalling
