/-
  What every plugin and every registry is like.

  `Plugin.WellFormed` and `Registry.WellFormed` say what the operations establish and keep:

  1. names are names (`isName`), of plugins and of their functions;
  2. a function carries the name of the plugin it is in, and of no other;
  3. no two functions of a plugin, and no two plugins of a registry, have names that differ in
     the case of letters at most.

  The crux of what follows is 3: because folded names are distinct, a search by name finds THE
  function of that name (`get?_eq_some_iff`), and what a lookup finds is found again under its
  own names (`get?_self`).  The plugin a function carries is the one to look in because of 2.
-/
import FunctionCalling.Registry
import Mathlib

namespace FunctionCalling

open FunctionCalling.Text

/-! ## Names without regard to case -/

namespace Text

/-- Folding makes a name character of nothing else, and loses none. -/
@[simp] theorem isNameChar_toLower (c : Char) : isNameChar c.toLower = isNameChar c := by
  cases h : c.isAlpha with
  | true =>
    have hlow : c.toLower.isAlpha = true := by
      rw [Char.isAlpha_toLower_eq_isAlpha]
      exact h
    simp only [isNameChar, Char.isAlphanum, h, hlow, Bool.true_or]
  | false =>
    have hupper : ¬ c.isUpper = true := by
      intro hupper
      rw [Char.isAlpha, hupper] at h
      cases h
    rw [Char.toLower_eq_of_not_isUpper hupper]

/-- Whether a text is a name does not depend on the case of its letters. -/
@[simp] theorem isName_fold (s : String) : isName (fold s) = isName s := by
  have hempty : (fold s).isEmpty = s.isEmpty := by
    rw [Bool.eq_iff_iff, String.isEmpty_iff, String.isEmpty_iff, fold_eq_empty_iff]
  have hall : (fold s).toList.all isNameChar = s.toList.all isNameChar := by
    simp [fold, List.all_map, Function.comp_def]
  rw [isName, isName, hempty, hall]

theorem isName_eq_of_sameName {a b : String} (h : sameName a b = true) : isName a = isName b := by
  rw [← isName_fold a, ← isName_fold b, sameName_iff.1 h]

end Text

/-! ## Searching for what is there once -/

/-- Where no two elements pass a test, a search finds the one that does. -/
theorem find?_eq_some_iff_of_unique {α : Type} {l : List α} {p : α → Bool}
    (hunique : ∀ a ∈ l, ∀ b ∈ l, p a = true → p b = true → a = b) {a : α} :
    l.find? p = some a ↔ a ∈ l ∧ p a = true := by
  constructor
  · intro h
    exact ⟨List.mem_of_find?_eq_some h, List.find?_some h⟩
  · rintro ⟨ha, hpa⟩
    cases hfind : l.find? p with
    | none => exact absurd hpa (List.find?_eq_none.1 hfind a ha)
    | some b =>
      rw [hunique b (List.mem_of_find?_eq_some hfind) a ha (List.find?_some hfind) hpa]

/-- When folded names are distinct, a search by name finds the one element of that name. -/
theorem find?_sameName_iff {α : Type} {name : α → String} {l : List α}
    (hdistinct : (l.map fun x => fold (name x)).Nodup) {n : String} {a : α} :
    l.find? (fun x => sameName (name x) n) = some a ↔ a ∈ l ∧ sameName (name a) n = true := by
  refine find?_eq_some_iff_of_unique ?_
  intro x hx y hy hxn hyn
  have hkey : fold (name x) = fold (name y) := (sameName_iff.1 hxn).trans (sameName_iff.1 hyn).symm
  exact List.inj_on_of_nodup_map hdistinct hx hy hkey

/-- Folded names stay distinct behind each other exactly when a search by the next name finds
    nothing yet. -/
theorem nodup_concat_iff {α : Type} {name : α → String} {l : List α} {a : α} :
    ((l ++ [a]).map fun x => fold (name x)).Nodup ↔
      (l.map fun x => fold (name x)).Nodup ∧
        l.find? (fun x => sameName (name x) (name a)) = none := by
  rw [List.map_append, List.map_singleton, ← List.concat_eq_append, List.nodup_concat,
    List.find?_eq_none, and_comm]
  refine and_congr_right fun _ => ?_
  constructor
  · intro hnew x hx hsame
    exact hnew (List.mem_map.2 ⟨x, hx, sameName_iff.1 hsame⟩)
  · intro hnone hmem
    obtain ⟨x, hx, hfold⟩ := List.mem_map.1 hmem
    exact hnone x hx (sameName_iff.2 hfold)

/-! ## Plugins -/

/-- What every plugin is like. -/
structure Plugin.WellFormed (p : Plugin) : Prop where
  isName : isName p.name = true
  members_isName : ∀ f ∈ p.functions, Text.isName f.name = true
  /-- Functions carry the name of the plugin. -/
  stamped : ∀ f ∈ p.functions, f.metadata.pluginName = some p.name
  /-- No two functions go by one name. -/
  distinct : (p.functions.map fun f => fold f.name).Nodup

namespace Plugin

theorem get?_eq_some_iff {p : Plugin} (hp : p.WellFormed) {n : String} {f : Callable} :
    p.get? n = some f ↔ f ∈ p.functions ∧ sameName f.name n = true :=
  find?_sameName_iff hp.distinct

theorem mem_and_sameName_of_get? {p : Plugin} {n : String} {f : Callable}
    (h : p.get? n = some f) : f ∈ p.functions ∧ sameName f.name n = true :=
  ⟨List.mem_of_find?_eq_some h, List.find?_some (p := fun g => sameName (Callable.name g) n) h⟩

theorem wellFormed_of_create {name : String} {p : Plugin} (h : create name = .ok p) :
    p.WellFormed := by
  obtain ⟨hname, rfl⟩ := create_eq_ok_iff.1 h
  exact ⟨hname, by simp, by simp, by simp⟩

/-- A new function keeps a plugin well formed: its name has been checked to be one and new. -/
theorem WellFormed.add {p q : Plugin} (hp : p.WellFormed) {id : Nat} {draft : Draft}
    (h : p.add id draft = .ok q) : q.WellFormed := by
  obtain ⟨hname, hnew, rfl⟩ := add_eq_ok_iff.1 h
  refine ⟨hp.isName, ?_, ?_, nodup_concat_iff.2 ⟨hp.distinct, hnew⟩⟩
  · intro f hf
    rcases List.mem_append.1 hf with hf | hf
    · exact hp.members_isName f hf
    · obtain rfl := List.mem_singleton.1 hf
      exact hname
  · intro f hf
    rcases List.mem_append.1 hf with hf | hf
    · exact hp.stamped f hf
    · obtain rfl := List.mem_singleton.1 hf
      rfl

theorem WellFormed.addAll {p q : Plugin} (hp : p.WellFormed) {id : Nat} {drafts : List Draft}
    (h : p.addAll id drafts = .ok q) : q.WellFormed := by
  induction drafts generalizing p id with
  | nil =>
    simp only [Plugin.addAll, Except.ok.injEq] at h
    exact h ▸ hp
  | cons draft drafts ih =>
    simp only [Plugin.addAll, bind, Except.bind] at h
    split at h
    · cases h
    next p' hadd => exact ih (hp.add hadd) h

/-- A plugin made of functions has just these, and is well formed. -/
theorem wellFormed_of_ofDrafts {id : Nat} {name : String} {drafts : List Draft} {p : Plugin}
    (h : ofDrafts id name drafts = .ok p) :
    p.WellFormed ∧ p.functions = members id name drafts := by
  simp only [ofDrafts, bind, Except.bind] at h
  split at h
  · cases h
  next p' hcreate =>
    refine ⟨(wellFormed_of_create hcreate).addAll h, ?_⟩
    obtain ⟨-, rfl⟩ := create_eq_ok_iff.1 hcreate
    rw [eq_of_addAll h]
    simp

theorem WellFormed.withDescription {p : Plugin} (hp : p.WellFormed) (description : String) :
    (p.withDescription description).WellFormed :=
  ⟨hp.isName, hp.members_isName, hp.stamped, hp.distinct⟩

end Plugin

/-! ## Registries -/

/-- What every registry is like. -/
structure Registry.WellFormed (r : Registry) : Prop where
  plugins : ∀ p ∈ r.plugins, p.WellFormed
  /-- No two plugins go by one name. -/
  distinct : (r.plugins.map fun p => fold p.name).Nodup

namespace Registry

theorem wellFormed_empty : empty.WellFormed :=
  ⟨by simp [empty], by simp [empty]⟩

/-- A new plugin keeps a registry well formed: its name has been checked to be new. -/
theorem WellFormed.add {r s : Registry} (hr : r.WellFormed) {p : Plugin} (hp : p.WellFormed)
    (h : r.add p = .ok s) : s.WellFormed := by
  obtain ⟨hnew, rfl⟩ := add_eq_ok_iff.1 h
  refine ⟨?_, nodup_concat_iff.2 ⟨hr.distinct, hnew⟩⟩
  intro q hq
  rcases List.mem_append.1 hq with hq | hq
  · exact hr.plugins q hq
  · obtain rfl := List.mem_singleton.1 hq
    exact hp

theorem mem_functions_iff {r : Registry} {f : Callable} :
    f ∈ r.functions ↔ ∃ p ∈ r.plugins, f ∈ p.functions :=
  List.mem_flatMap

theorem plugin?_eq_some_iff {r : Registry} (hr : r.WellFormed) {n : String} {p : Plugin} :
    r.plugin? n = some p ↔ p ∈ r.plugins ∧ sameName p.name n = true :=
  find?_sameName_iff hr.distinct

/-! ## Looking up -/

/-- With a plugin, a lookup finds the function of the name in the plugin of the name. -/
theorem get?_some_eq_some_iff {r : Registry} (hr : r.WellFormed) {q n : String} (hq : q ≠ "")
    {f : Callable} :
    r.get? (some q) n = some f ↔
      ∃ p ∈ r.plugins, f ∈ p.functions ∧ sameName p.name q = true ∧ sameName f.name n = true := by
  rw [get?, Metadata.namedPlugin_some_of_ne hq]
  constructor
  · intro h
    obtain ⟨p, hp, hf⟩ := Option.bind_eq_some_iff.1 h
    obtain ⟨hmem, hname⟩ := (plugin?_eq_some_iff hr).1 hp
    obtain ⟨hfmem, hfname⟩ := (Plugin.get?_eq_some_iff (hr.plugins p hmem)).1 hf
    exact ⟨p, hmem, hfmem, hname, hfname⟩
  · rintro ⟨p, hmem, hfmem, hname, hfname⟩
    have hp : r.plugin? q = some p := (plugin?_eq_some_iff hr).2 ⟨hmem, hname⟩
    have hf : p.get? n = some f :=
      (Plugin.get?_eq_some_iff (hr.plugins p hmem)).2 ⟨hfmem, hfname⟩
    exact Option.bind_eq_some_iff.2 ⟨p, hp, hf⟩

/-- What a lookup finds is a function of the registry, of the name looked for. -/
theorem mem_and_sameName_of_get? {r : Registry} {plugin : Option String} {n : String}
    {f : Callable} (h : r.get? plugin n = some f) :
    f ∈ r.functions ∧ sameName f.name n = true := by
  have hfrom : ∃ p ∈ r.plugins, p.get? n = some f := by
    unfold get? at h
    split at h
    next q hq =>
      obtain ⟨p, hp, hf⟩ := Option.bind_eq_some_iff.1 h
      exact ⟨p, List.mem_of_find?_eq_some hp, hf⟩
    next hnone => exact List.exists_of_findSome?_eq_some h
  obtain ⟨p, hp, hf⟩ := hfrom
  obtain ⟨hmem, hname⟩ := Plugin.mem_and_sameName_of_get? hf
  exact ⟨mem_functions_iff.2 ⟨p, hp, hmem⟩, hname⟩

/-- A function of a registry has the plugin it is in. -/
theorem plugin_of_mem {r : Registry} (hr : r.WellFormed) {p : Plugin} (hp : p ∈ r.plugins)
    {f : Callable} (hf : f ∈ p.functions) : f.plugin = some p.name := by
  have hwf := hr.plugins p hp
  rw [Callable.plugin, Metadata.plugin, hwf.stamped f hf]
  exact Metadata.namedPlugin_some_of_ne (ne_empty_of_isName hwf.isName)

/-- Every function of a registry is found under its own names. -/
theorem get?_self {r : Registry} (hr : r.WellFormed) {f : Callable} (hf : f ∈ r.functions) :
    r.get? f.plugin f.name = some f := by
  obtain ⟨p, hp, hfp⟩ := mem_functions_iff.1 hf
  rw [plugin_of_mem hr hp hfp]
  have hne := ne_empty_of_isName (hr.plugins p hp).isName
  exact (get?_some_eq_some_iff hr hne).2 ⟨p, hp, hfp, sameName_refl _, sameName_refl _⟩

/-- No two functions of a registry have names that differ in the case of letters at most. -/
theorem eq_of_sameName {r : Registry} (hr : r.WellFormed) {p q : Plugin} (hp : p ∈ r.plugins)
    (hq : q ∈ r.plugins) {f g : Callable} (hf : f ∈ p.functions) (hg : g ∈ q.functions)
    (hplugin : sameName p.name q.name = true) (hname : sameName f.name g.name = true) :
    f = g := by
  have hne := ne_empty_of_isName (hr.plugins q hq).isName
  have hfoundf : r.get? (some q.name) g.name = some f :=
    (get?_some_eq_some_iff hr hne).2 ⟨p, hp, hf, hplugin, hname⟩
  have hfoundg : r.get? (some q.name) g.name = some g :=
    (get?_some_eq_some_iff hr hne).2 ⟨q, hq, hg, sameName_refl _, sameName_refl _⟩
  exact Option.some.inj (hfoundf.symm.trans hfoundg)

/-- No function is twice in a registry: those of a plugin have distinct names, and those of two
    plugins carry the names of the two. -/
theorem nodup_functions {r : Registry} (hr : r.WellFormed) : r.functions.Nodup := by
  refine List.nodup_flatMap.2 ⟨?_, ?_⟩
  · intro p hp
    exact (hr.plugins p hp).distinct.of_map
  · refine (List.pairwise_map.1 hr.distinct).imp_of_mem ?_
    intro p q hp hq hne f hfp hfq
    have hstamp := (hr.plugins p hp).stamped f hfp
    rw [(hr.plugins q hq).stamped f hfq] at hstamp
    exact hne (congrArg fold (Option.some.inj hstamp).symm)

/-- Only names can be found. -/
theorem isName_of_get? {r : Registry} (hr : r.WellFormed) {plugin : Option String} {n : String}
    {f : Callable} (h : r.get? plugin n = some f) : isName n = true := by
  obtain ⟨hmem, hname⟩ := mem_and_sameName_of_get? h
  obtain ⟨p, hp, hf⟩ := mem_functions_iff.1 hmem
  rw [← isName_eq_of_sameName hname]
  exact (hr.plugins p hp).members_isName f hf

/-- Only in plugins that go by a name can anything be found. -/
theorem isName_plugin_of_get? {r : Registry} (hr : r.WellFormed) {q n : String} (hq : q ≠ "")
    {f : Callable} (h : r.get? (some q) n = some f) : isName q = true := by
  obtain ⟨p, hp, -, hname, -⟩ := (get?_some_eq_some_iff hr hq).1 h
  rw [← isName_eq_of_sameName hname]
  exact (hr.plugins p hp).isName

end Registry

end FunctionCalling
