/-
  What identities tell apart.

  Calls are counted under identities, which are pairs of folded names, and not under functions.
  An identity is a name itself: a lookup under it finds what a lookup under the original names finds
  (`get?_identity`).  That is all there is to it:

  1. names with one identity have one lookup, so no two functions share an identity, and neither do
     a function and names that stand for nothing;
  2. names that stand for one function have its own identity, however they are written;
  3. names that stand for nothing have one identity when they are the same but for case, where
     an empty plugin and an absent one are the same (`Metadata.is_iff`).

  `identity_eq_iff` puts the three together.  Without a registry all names stand for nothing, and an
  identity tells apart what the names in metadata do.
-/
import FunctionCalling.Proofs.Recasing

namespace FunctionCalling

open FunctionCalling.Text

/-! ## Names of plugins -/

namespace Metadata

/-- A plugin name that says nothing is the empty one. -/
theorem namedPlugin_getD (plugin : Option String) :
    (namedPlugin plugin).getD "" = plugin.getD "" := by
  cases plugin with
  | none => rfl
  | some p =>
    by_cases hp : p = ""
    · subst hp
      rfl
    · rw [namedPlugin_some_of_ne hp]

theorem ne_empty_of_namedPlugin {plugin : Option String} {p : String}
    (h : namedPlugin plugin = some p) : p ≠ "" :=
  (namedPlugin_eq_some_iff.1 h).2

/-- **Names identify a function when they fold to the same names**, where an absent plugin is
    the empty one. -/
theorem is_iff {m : Metadata} {plugin : Option String} {n : String} :
    m.is plugin n = true ↔
      fold (m.plugin.getD "") = fold (plugin.getD "") ∧ fold m.name = fold n := by
  rw [← namedPlugin_getD plugin, is, Bool.and_eq_true, sameName_iff]
  refine and_congr_left' ?_
  cases hown : m.plugin with
  | none =>
    cases hgiven : namedPlugin plugin with
    | none => simp
    | some b =>
      have hdiffer : fold "" ≠ fold b :=
        fun h => ne_empty_of_namedPlugin hgiven (fold_eq_empty_iff.1 h.symm)
      simp [hdiffer]
  | some a =>
    cases hgiven : namedPlugin plugin with
    | none =>
      have hdiffer : fold a ≠ fold "" :=
        fun h => ne_empty_of_namedPlugin hown (fold_eq_empty_iff.1 h)
      simp [hdiffer]
    | some b => simp [sameName_iff]

end Metadata

/-- Two names, each a plugin that may be absent and a function, are the same up to the case of
    letters, where an empty plugin is none. -/
@[mk_iff]
structure SameNames (a : Option String) (n : String) (b : Option String) (m : String) : Prop where
  /-- Both have a plugin, the same one, or neither has. -/
  plugin : Option.Rel (fun p q => sameName p q = true) (Metadata.namedPlugin a)
    (Metadata.namedPlugin b)
  function : sameName n m = true

/-- Metadata are identified by the names that are the same as theirs. -/
theorem Metadata.is_iff_sameNames {m : Metadata} {plugin : Option String} {n : String} :
    m.is plugin n = true ↔ SameNames m.pluginName m.name plugin n := by
  rw [sameNames_iff, is, Metadata.plugin, Bool.and_eq_true]
  refine and_congr_left' ?_
  cases namedPlugin m.pluginName with
  | none =>
    cases namedPlugin plugin with
    | none => exact iff_of_true rfl .none
    | some b => exact iff_of_false Bool.false_ne_true (fun h => by cases h)
  | some a =>
    cases namedPlugin plugin with
    | none => exact iff_of_false Bool.false_ne_true (fun h => by cases h)
    | some b => exact (Option.rel_some_some (r := fun p q => sameName p q = true)).symm

/-- The same names fold to the same names, where an absent plugin is the empty one. -/
theorem sameNames_iff_fold {a b : Option String} {n m : String} :
    SameNames a n b m ↔ fold (a.getD "") = fold (b.getD "") ∧ fold n = fold m := by
  -- the names of metadata can be any names
  rw [← Metadata.namedPlugin_getD a]
  exact (Metadata.is_iff_sameNames (m := ⟨a, n, "", Metadata.anyObject⟩)).symm.trans
    Metadata.is_iff

/-! ## Identities as names -/

namespace Registry

/-- A lookup does not tell an absent plugin from an empty one, nor names from folded names. -/
theorem get?_fold_getD (r : Registry) (plugin : Option String) (n : String) :
    r.get? (some (fold (plugin.getD ""))) (fold n) = r.get? plugin n := by
  cases plugin with
  | none => exact r.get?_fold none n
  | some p => exact r.get?_fold (some p) n

end Registry

namespace Choice

/-- What the registry holds under some names gives these names its own identity. -/
theorem identity_of_get? {r : Registry} {plugin : Option String} {n : String} {f : Callable}
    (h : r.get? plugin n = some f) :
    identity (some r) plugin n = (fold (f.plugin.getD ""), fold f.name) := by
  simp [identity, h]

/-- Names that stand for nothing are their own identity. -/
theorem identity_of_get?_eq_none {r : Registry} {plugin : Option String} {n : String}
    (h : r.get? plugin n = none) :
    identity (some r) plugin n = (fold (plugin.getD ""), fold n) := by
  simp [identity, h]

/-- **An identity stands for what it is the identity of.** -/
theorem get?_identity {r : Registry} (hr : r.WellFormed) (plugin : Option String) (n : String) :
    r.get? (some (identity (some r) plugin n).1) (identity (some r) plugin n).2 =
      r.get? plugin n := by
  cases h : r.get? plugin n with
  | some f =>
    rw [identity_of_get? h, r.get?_fold_getD]
    exact Registry.get?_self hr (Registry.mem_and_sameName_of_get? h).1
  | none =>
    rw [identity_of_get?_eq_none h, r.get?_fold_getD]
    exact h

/-- **Names have one identity** when they stand for one function, or stand for nothing and fold to
    the same names; and only then. -/
theorem identity_eq_iff {r : Registry} (hr : r.WellFormed) {a b : Option String} {n m : String} :
    identity (some r) a n = identity (some r) b m ↔
      r.get? a n = r.get? b m ∧
        (r.get? b m = none → fold (a.getD "") = fold (b.getD "") ∧ fold n = fold m) := by
  constructor
  · intro h
    have hlookup : r.get? a n = r.get? b m := by
      rw [← get?_identity hr a n, h, get?_identity hr b m]
    refine ⟨hlookup, ?_⟩
    intro hnone
    rw [identity_of_get?_eq_none (hlookup.trans hnone), identity_of_get?_eq_none hnone] at h
    exact Prod.mk.inj h
  · rintro ⟨hlookup, hfolded⟩
    cases hb : r.get? b m with
    | some f => rw [identity_of_get? hb, identity_of_get? (hlookup.trans hb)]
    | none =>
      obtain ⟨hplugin, hname⟩ := hfolded hb
      rw [identity_of_get?_eq_none hb, identity_of_get?_eq_none (hlookup.trans hb), hplugin, hname]

/-- Without a registry names are their own identity. -/
theorem identity_none_eq_iff {a b : Option String} {n m : String} :
    identity none a n = identity none b m ↔ SameNames a n b m := by
  rw [sameNames_iff_fold]
  exact Prod.mk_inj

/-- **Identities stand for functions.**  In a registry that was built,

    1. two names have one identity exactly when both are found and are the names of one function,
       or neither is found and they are the same names;
    2. a name that is not found has the identity of no function of the registry.

    Without a registry, the names in metadata have one identity exactly when the metadata are
    identified by each other's names. -/
theorem one_identity_iff {r : Registry} (hr : r.Built) :
    (∀ (a b : Option String) (n m : String),
      identity (some r) a n = identity (some r) b m ↔
        (∃ f, r.get? a n = some f ∧ r.get? b m = some f) ∨
          (r.get? a n = none ∧ r.get? b m = none ∧ SameNames a n b m)) ∧
    (∀ (a : Option String) (n : String), r.get? a n = none → ∀ f ∈ r.functions,
      identity (some r) a n ≠ identity (some r) f.plugin f.name) ∧
    ∀ m m' : Metadata, identity none m.plugin m.name = identity none m'.plugin m'.name ↔
      m.is m'.plugin m'.name = true := by
  have hwf := hr.wellFormed
  refine ⟨?_, ?_, ?_⟩
  · intro a b n m
    rw [identity_eq_iff hwf, ← sameNames_iff_fold]
    cases hb : r.get? b m with
    | some f => simp
    | none => simp
  · intro a n hnone f hf hidentity
    have hlookup := ((identity_eq_iff hwf).1 hidentity).1
    rw [hnone, Registry.get?_self hwf hf] at hlookup
    cases hlookup
  · intro m m'
    rw [identity_none_eq_iff, sameNames_iff_fold, Metadata.is_iff]

/-- A function has one identity, under the name of its plugin and without; so has a name that is
    not found, with an empty plugin and without.  But a name that is not found does not have the
    identity of a namesake in another plugin. -/
theorem one_identity_iff_recased :
    let add : Callable := .ofMember 0 "Math" (.echo "Add")
    identity (some .sample) (some "MATH") "add" = identity (some .sample) none "ADD" ∧
      identity (some .sample) (some "") "Nope" = identity (some .sample) none "NOPE" ∧
      identity (some .sample) (some "Time") "Add" ≠ identity (some .sample) add.plugin add.name ∧
      identity none (some "Time") "Now" = identity none (some "TIME") "now" := by
  intro add
  obtain ⟨hpairs, hnotFound, hmetadata⟩ := one_identity_iff Registry.built_sample
  have hsame : SameNames (some "") "Nope" none "NOPE" := ⟨.none, by decide⟩
  have hadd : add ∈ Registry.sample.functions := by
    rw [Registry.functions_sample]
    exact List.mem_cons_self
  refine ⟨?_, ?_, hnotFound (some "Time") "Add" rfl add hadd, ?_⟩
  · exact (hpairs (some "MATH") none "add" "ADD").2 (Or.inl ⟨add, rfl, rfl⟩)
  · exact (hpairs (some "") none "Nope" "NOPE").2 (Or.inr ⟨rfl, rfl, hsame⟩)
  · exact (hmetadata ⟨some "Time", "Now", "", Metadata.anyObject⟩
      ⟨some "TIME", "now", "", Metadata.anyObject⟩).2 (by decide)

end Choice

end FunctionCalling
