/-
  Trying further separators.

  Settings may list separators to try besides the first.  The policy then reads a name by asking
  the registry which split is meant; without them (`PolicySettings.plain`) a name is split at the
  first occurrence of the first separator, and nobody is asked.  Two ways of reading, and what the
  second finds the first finds as well:

  1. where the first separator occurs, the plain split is the first one that is tried, so if the
     registry holds what it says, nothing else is tried (`trySeparators_of_splitFirst`);
  2. where it does not occur, the plain policy takes the name as a whole, and that is what trying
     comes to in the end when no split is good (`trySeparators_cases`).

  In case 2 a split at one of the further separators may be good, and then the name means another
  function than before.  That takes a further separator that occurs in the name; there is no other
  way to be redirected.
-/
import FunctionCalling.Proofs.RoundTrip

namespace FunctionCalling

open FunctionCalling.Text

/-! ## Occurrences -/

namespace Text

/-- A text that is part of another. -/
def Occurs (part s : String) : Prop :=
  ∃ before after, s = before ++ part ++ after

/-- What occurs is found. -/
theorem exists_splitFirst_of_occurs {part s : String} (h : Occurs part s) :
    ∃ parts, splitFirst part.toList s.toList = some parts := by
  obtain ⟨before, after, rfl⟩ := h
  rw [String.toList_append, String.toList_append]
  exact Option.isSome_iff_exists.1 (isSome_splitFirst _ _ _)

/-- What does not occur is not found. -/
theorem splitFirst_eq_none_of_not_occurs {part s : String} (h : ¬ Occurs part s) :
    splitFirst part.toList s.toList = none := by
  cases hsplit : splitFirst part.toList s.toList with
  | none => rfl
  | some parts =>
    refine absurd ⟨String.ofList parts.1, String.ofList parts.2, ?_⟩ h
    rw [← String.toList_inj, append_of_splitFirst hsplit]
    simp

end Text

/-! ## Both ways of reading -/

namespace Naming

/-- A name in which a separator occurs is split where the separator is first found. -/
theorem split_of_splitFirst {separator fqn : String} (hne : separator ≠ "")
    {parts : List Char × List Char}
    (h : splitFirst separator.toList fqn.toList = some parts) :
    split separator fqn = ofParts parts := by
  have hempty : separator.isEmpty = false := by
    simpa using hne
  rw [split, hempty, if_neg Bool.false_ne_true, h]

/-- A name without the separator is taken as a whole, and so is every name when the separator is
    empty. -/
theorem split_eq_whole {separator fqn : String} (h : separator ≠ "" → ¬ Occurs separator fqn) :
    split separator fqn = .whole fqn := by
  by_cases hne : separator = ""
  · subst hne
    rfl
  · simp only [split, splitFirst_eq_none_of_not_occurs (h hne), ite_self]

/-- **What trying separators comes to**: a split that is good, or the whole name when there is no
    such split. -/
theorem trySeparators_cases (separators : List String) (fqn : String) (r : Registry) :
    (∃ p ∈ candidates separators fqn,
      trySeparators separators fqn (some r) = p ∧ (p.resolve r).isSome = true) ∨
    (∀ p ∈ candidates separators fqn, p.resolve r = none) ∧
      trySeparators separators fqn (some r) = .whole fqn := by
  cases hfind : (candidates separators fqn).find? fun p => (p.resolve r).isSome with
  | some p =>
    left
    have hgood : (p.resolve r).isSome = true :=
      List.find?_some (p := fun p : Parsed => (p.resolve r).isSome) hfind
    refine ⟨p, List.mem_of_find?_eq_some hfind, ?_, hgood⟩
    simp only [trySeparators, hfind, Option.getD_some]
  | none =>
    right
    constructor
    · intro p hp
      simpa using List.find?_eq_none.1 hfind p hp
    · simp only [trySeparators, hfind, Option.getD_none]

/-- A split that is tried is at an occurrence of one of the separators. -/
theorem exists_occurs_of_mem_candidates {separators : List String} {fqn : String} {p : Parsed}
    (h : p ∈ candidates separators fqn) : ∃ s ∈ separators, s ≠ "" ∧ Occurs s fqn := by
  obtain ⟨s, hs, hne, plugin, -, hjoin⟩ := append_of_mem_candidates h
  exact ⟨s, hs, hne, plugin, p.function, hjoin⟩

end Naming

/-! ## With and without -/

namespace PolicySettings

/-- The same settings without further separators. -/
def plain (s : PolicySettings) : PolicySettings :=
  { s with fallbackSeparators := [] }

/-- Further separators are not tried when there are none, or when functions go by their name
    alone. -/
theorem toPolicy_eq_plain {s : PolicySettings}
    (h : s.nameOnly = true ∨ s.fallbackSeparators = []) : s.toPolicy = s.plain.toPolicy := by
  rcases h with hbare | hnone
  · simp [toPolicy, plain, hbare]
  · simp [toPolicy, plain, hnone]

/-- Without further separators a name is split at the separator, unless functions go by their name
    alone. -/
theorem resolve_plain {s : PolicySettings} (hbare : s.nameOnly = false) (fqn : String)
    (r : Registry) :
    s.plain.toPolicy.resolve fqn r = (Naming.split s.separator fqn).resolve r := by
  simp [Naming.Policy.resolve, Naming.Policy.parse, toPolicy, plain, hbare]

/-- With further separators all are tried, the first one first. -/
theorem resolve_toPolicy {s : PolicySettings} (hbare : s.nameOnly = false)
    (hsome : s.fallbackSeparators ≠ []) (fqn : String) (r : Registry) :
    s.toPolicy.resolve fqn r =
      (Naming.trySeparators (s.separator :: s.fallbackSeparators) fqn (some r)).resolve r := by
  simp [Naming.Policy.resolve, Naming.Policy.parse, toPolicy, hbare, hsome]

/-- A name in which the separator occurs is read the same way with further separators, when the
    registry holds what is read. -/
theorem resolve_of_occurs {s : PolicySettings} (hbare : s.nameOnly = false)
    (hsome : s.fallbackSeparators ≠ []) {r : Registry} {fqn : String} {f : Callable}
    (h : s.plain.toPolicy.resolve fqn r = some f) (hne : s.separator ≠ "")
    (hoccurs : Occurs s.separator fqn) : s.toPolicy.resolve fqn r = some f := by
  obtain ⟨parts, hparts⟩ := exists_splitFirst_of_occurs hoccurs
  rw [resolve_plain hbare, Naming.split_of_splitFirst hne hparts] at h
  have hfound : ((Naming.ofParts parts).resolve r).isSome = true :=
    Option.isSome_iff_exists.2 ⟨f, h⟩
  rw [resolve_toPolicy hbare hsome, Naming.trySeparators_of_splitFirst hne hparts _ hfound, h]

/-- A name in which the separator does not occur means the same function with further separators,
    or one that the registry holds under a split at one of these. -/
theorem resolve_of_not_occurs {s : PolicySettings} (hbare : s.nameOnly = false)
    (hsome : s.fallbackSeparators ≠ []) {r : Registry} {fqn : String} {f : Callable}
    (h : s.plain.toPolicy.resolve fqn r = some f)
    (hoccurs : s.separator ≠ "" → ¬ Occurs s.separator fqn) :
    s.toPolicy.resolve fqn r = some f ∨
      ∃ g, s.toPolicy.resolve fqn r = some g ∧
        ∃ t ∈ s.fallbackSeparators, t ≠ "" ∧ Occurs t fqn := by
  rw [resolve_plain hbare, Naming.split_eq_whole hoccurs] at h
  rw [resolve_toPolicy hbare hsome]
  rcases Naming.trySeparators_cases (s.separator :: s.fallbackSeparators) fqn r with
    ⟨p, hp, hread, hgood⟩ | ⟨-, hread⟩
  · right
    obtain ⟨g, hg⟩ := Option.isSome_iff_exists.1 hgood
    refine ⟨g, by rw [hread, hg], ?_⟩
    -- the split is at a separator that occurs, which the first one does not
    obtain ⟨t, ht, hne, hin⟩ := Naming.exists_occurs_of_mem_candidates hp
    rcases List.mem_cons.1 ht with rfl | ht
    · exact absurd hin (hoccurs hne)
    · exact ⟨t, ht, hne, hin⟩
  · left
    rw [hread, h]

end PolicySettings

/-- **Further separators lose no name.**  A name that stands for a function under settings without
    further separators stands for one when they are tried as well.  It is the same function

    1. when functions go by their name alone, or there are no further separators after all;
    2. when the first separator, which is not empty, occurs in the name;
    3. when none of the further separators, other than empty ones, occurs in the name. -/
theorem resolves_with_further_separators (s : PolicySettings) (r : Registry) {fqn : String}
    {f : Callable} (h : s.plain.toPolicy.resolve fqn r = some f) :
    ∃ g, s.toPolicy.resolve fqn r = some g ∧
      ((s.nameOnly = true ∨ s.fallbackSeparators = [] ∨
        (s.separator ≠ "" ∧ Text.Occurs s.separator fqn) ∨
        ∀ t ∈ s.fallbackSeparators, t ≠ "" → ¬ Text.Occurs t fqn) → g = f) := by
  by_cases hsame : s.nameOnly = true ∨ s.fallbackSeparators = []
  · exact ⟨f, PolicySettings.toPolicy_eq_plain hsame ▸ h, fun _ => rfl⟩
  · obtain ⟨hbare, hsome⟩ := not_or.1 hsame
    rw [Bool.not_eq_true] at hbare
    by_cases hoccurs : s.separator ≠ "" ∧ Text.Occurs s.separator fqn
    · exact ⟨f, s.resolve_of_occurs hbare hsome h hoccurs.1 hoccurs.2, fun _ => rfl⟩
    · rcases s.resolve_of_not_occurs hbare hsome h (not_and.1 hoccurs) with
        hkept | ⟨g, hg, t, ht, hne, hin⟩
      · exact ⟨f, hkept, fun _ => rfl⟩
      · refine ⟨g, hg, ?_⟩
        rintro (hname | hempty | hfirst | hnone)
        · exact absurd (Or.inl hname) hsame
        · exact absurd (Or.inr hempty) hsame
        · exact absurd hfirst hoccurs
        · exact absurd hin (hnone t ht hne)

/-- Two plugins, of which the second has a function whose name looks like that of the function of
    the first. -/
def Registry.lookalikes : Registry :=
  (Registration.start.run
    [.addFunctions "Math" [.echo "Add"], .addFunctions "Tools" [.echo "Math_Add"]]).registry

/-- The bare name of the second is found with further separators too, though it then means the
    first; behind its plugin and the first separator the name means what it did. -/
theorem resolves_with_further_separators_lookalikes :
    let s : PolicySettings := ⟨"-", false, ["", "_"]⟩
    let f : Callable := .ofMember 1 "Tools" (.echo "Math_Add")
    s.plain.toPolicy.resolve "Math_Add" .lookalikes = some f ∧
      (∃ g, s.toPolicy.resolve "Math_Add" .lookalikes = some g ∧
        g = .ofMember 0 "Math" (.echo "Add")) ∧
      s.plain.toPolicy.resolve "Tools-MATH_ADD" .lookalikes = some f ∧
      s.toPolicy.resolve "Tools-MATH_ADD" .lookalikes = some f := by
  intro s f
  have hbare : (PolicySettings.mk "-" false ["", "_"]).plain.toPolicy.resolve "Math_Add"
      .lookalikes = some (.ofMember 1 "Tools" (.echo "Math_Add")) := rfl
  have hfull : (PolicySettings.mk "-" false ["", "_"]).plain.toPolicy.resolve "Tools-MATH_ADD"
      .lookalikes = some (.ofMember 1 "Tools" (.echo "Math_Add")) := rfl
  have hother : (PolicySettings.mk "-" false ["", "_"]).toPolicy.resolve "Math_Add"
      .lookalikes = some (.ofMember 0 "Math" (.echo "Add")) := rfl
  have hoccurs : Text.Occurs "-" "Tools-MATH_ADD" := ⟨"Tools", "MATH_ADD", rfl⟩
  have hne : "-" ≠ "" := by decide
  obtain ⟨g, hg, -⟩ := resolves_with_further_separators s .lookalikes hbare
  obtain ⟨g', hg', hkept⟩ := resolves_with_further_separators s .lookalikes hfull
  obtain rfl := hkept (Or.inr (Or.inr (Or.inl ⟨hne, hoccurs⟩)))
  exact ⟨hbare, ⟨g, hg, Option.some.inj (hg.symm.trans hother)⟩, hfull, hg'⟩

end FunctionCalling
