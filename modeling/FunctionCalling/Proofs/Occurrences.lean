/-
  Which occurrences of a separator a scan meets.

  `splits` goes through a text from the left and resumes behind each occurrence it has found.  Of
  occurrences that overlap it meets some and passes over the others:

  1. it meets the first occurrence of all, and then the occurrences it meets in the rest of the
     text (`Met`, `mem_splits_iff`);
  2. an occurrence is met when none that begins further to the left reaches into it
     (`Clear.met`);
  3. every occurrence is of this kind when the separator does not overlap itself
     (`clear_of_not_overlapsItself`), as a single character does not.

  The crux is 2.  The first occurrence begins no further to the right than the one in question
  (`length_le_of_splitFirst`), and unless it is that one it ends before it; so the one in question
  lies in the rest, where it is still clear, and the rest is shorter.
-/
import FunctionCalling.Text.Split
import Mathlib.Data.List.Basic

namespace FunctionCalling.Text

/-! ## Where occurrences lie -/

/-- The first occurrence is as far to the left as any. -/
theorem length_le_of_splitFirst {sep s before rest before' rest' : List Char}
    (h : splitFirst sep s = some (before, rest)) (hjoin : s = before' ++ sep ++ rest') :
    before.length ≤ before'.length := by
  induction s generalizing before before' with
  | nil =>
    obtain ⟨r, -, hsplit⟩ := Option.map_eq_some_iff.1 h
    obtain ⟨rfl, -⟩ := Prod.mk.inj hsplit
    exact Nat.zero_le _
  | cons c s ih =>
    simp only [splitFirst] at h
    split at h
    next r hlead =>
      obtain ⟨rfl, -⟩ := Prod.mk.inj (Option.some.inj h)
      exact Nat.zero_le _
    next hlead =>
      obtain ⟨⟨b, r⟩, hsplit, hcons⟩ := Option.map_eq_some_iff.1 h
      obtain ⟨rfl, rfl⟩ := Prod.mk.inj hcons
      cases before' with
      | nil =>
        -- the text would begin with the separator
        rw [List.nil_append] at hjoin
        rw [dropLead?_eq_some_iff.2 hjoin] at hlead
        cases hlead
      | cons d before' =>
        obtain ⟨-, htail⟩ := List.cons.inj hjoin
        exact Nat.succ_le_succ (ih hsplit htail)

/-- Of two occurrences that do not overlap, the second lies behind the first. -/
theorem exists_between {sep before rest before' rest' : List Char}
    (h : before ++ sep ++ rest = before' ++ sep ++ rest')
    (hapart : before'.length + sep.length ≤ before.length) :
    ∃ between, before = before' ++ sep ++ between ∧ rest' = between ++ sep ++ rest := by
  have hlead : before' ++ sep <+: before := by
    refine List.prefix_of_prefix_length_le ⟨rest', rfl⟩ ⟨sep ++ rest, ?_⟩ ?_
    · rw [← List.append_assoc, h]
    · simpa using hapart
  obtain ⟨between, rfl⟩ := hlead
  refine ⟨between, rfl, ?_⟩
  simpa using h.symm

/-! ## The occurrences a scan meets -/

/-- The text before and after an occurrence that is met when a text is gone through from the left,
    each occurrence as a whole. -/
inductive Met (sep : List Char) : List Char → List Char → List Char → Prop where
  /-- The first occurrence of all is met. -/
  | first {s before rest : List Char} (h : splitFirst sep s = some (before, rest)) :
      Met sep s before rest
  /-- What is met behind the first occurrence is met. -/
  | later {s before rest before' rest' : List Char} (h : splitFirst sep s = some (before, rest))
      (hrest : Met sep rest before' rest') : Met sep s (before ++ sep ++ before') rest'

/-- What lies behind an occurrence is shorter than the whole. -/
theorem length_rest_lt_of_splitFirst {sep s before rest : List Char} (hsep : sep ≠ [])
    (h : splitFirst sep s = some (before, rest)) : rest.length < s.length := by
  have hpos := List.length_pos_of_ne_nil hsep
  rw [append_of_splitFirst h]
  simp only [List.length_append]
  omega

theorem mem_splitsFrom_iff {sep : List Char} (hsep : sep ≠ []) (before s : List Char)
    {p : List Char × List Char} :
    p ∈ splitsFrom sep before 0 s ↔ ∃ b, p.1 = before.reverse ++ b ∧ Met sep s b p.2 := by
  cases h : splitFirst sep s with
  | none =>
    rw [splitsFrom_of_splitFirst_eq_none h]
    constructor
    · intro hmem
      cases hmem
    · rintro ⟨b, -, hmet⟩
      cases hmet with
      | first h' => cases h.symm.trans h'
      | later h' _ => cases h.symm.trans h'
  | some parts =>
    obtain ⟨b, rest⟩ := parts
    have hshorter := length_rest_lt_of_splitFirst hsep h
    rw [splitsFrom_of_splitFirst hsep h, List.mem_cons, mem_splitsFrom_iff hsep _ rest]
    constructor
    · rintro (rfl | ⟨b', hb', hmet⟩)
      · exact ⟨b, rfl, .first h⟩
      · exact ⟨b ++ sep ++ b', by simp [hb'], .later h hmet⟩
    · rintro ⟨b', hb', hmet⟩
      cases hmet with
      | first h' =>
        obtain ⟨rfl, hrest⟩ := Prod.mk.inj (Option.some.inj (h.symm.trans h'))
        exact Or.inl (Prod.ext hb' hrest.symm)
      | later h' hmet =>
        obtain ⟨rfl, rfl⟩ := Prod.mk.inj (Option.some.inj (h.symm.trans h'))
        exact Or.inr ⟨_, by simp [hb'], hmet⟩
termination_by s.length

/-- **The splits are those at the occurrences that are met.** -/
theorem mem_splits_iff {sep : List Char} (hsep : sep ≠ []) {s : List Char}
    {p : List Char × List Char} : p ∈ splits sep s ↔ Met sep s p.1 p.2 := by
  simp [splits, mem_splitsFrom_iff hsep]

/-! ## Occurrences that are not overlapped -/

/-- No occurrence that begins further to the left reaches into the one between two texts. -/
def Clear (sep before rest : List Char) : Prop :=
  ∀ before' rest', before ++ sep ++ rest = before' ++ sep ++ rest' →
    before'.length < before.length → before'.length + sep.length ≤ before.length

/-- What is clear in the whole is clear in what lies behind another occurrence. -/
theorem Clear.of_append {sep front before rest : List Char}
    (h : Clear sep (front ++ before) rest) : Clear sep before rest := by
  intro before' rest' hjoin hlt
  have hapart := h (front ++ before') rest' (by simpa using hjoin) (by simpa using hlt)
  simp only [List.length_append] at hapart
  omega

/-- **An occurrence that none further to the left reaches into is met.** -/
theorem Clear.met {sep before rest : List Char} (hsep : sep ≠ []) (h : Clear sep before rest) :
    Met sep (before ++ sep ++ rest) before rest := by
  obtain ⟨⟨b, r⟩, hfirst⟩ := Option.isSome_iff_exists.1 (isSome_splitFirst before sep rest)
  have hjoin := append_of_splitFirst hfirst
  have hle := length_le_of_splitFirst hfirst rfl
  by_cases hsame : before.length = b.length
  · obtain ⟨rfl, rfl⟩ := eq_of_join_eq_of_length_eq hjoin hsame
    exact .first hfirst
  · have hapart := h b r hjoin (by omega)
    obtain ⟨between, rfl, rfl⟩ := exists_between hjoin hapart
    have hpos := List.length_pos_of_ne_nil hsep
    exact .later hfirst (Clear.met hsep h.of_append)
termination_by before.length
decreasing_by
  subst_vars
  simp only [List.length_append]
  omega

/-- The separator may begin again before it has ended. -/
def OverlapsItself (sep : List Char) : Prop :=
  ∃ lead shared tail, lead ≠ [] ∧ shared ≠ [] ∧ sep = lead ++ shared ∧ sep = shared ++ tail

/-- No occurrence of a separator that does not overlap itself is overlapped. -/
theorem clear_of_not_overlapsItself {sep : List Char} (h : ¬ OverlapsItself sep)
    (before rest : List Char) : Clear sep before rest := by
  intro before' rest' hjoin hlt
  by_contra hover
  refine h ?_
  -- what is between the two beginnings is the lead, and is shorter than the separator
  obtain ⟨lead, rfl⟩ : before' <+: before := by
    refine List.prefix_of_prefix_length_le ⟨sep ++ rest', ?_⟩ ⟨sep ++ rest, rfl⟩ (Nat.le_of_lt hlt)
    rw [← List.append_assoc, ← List.append_assoc, hjoin]
  have hrest : lead ++ (sep ++ rest) = sep ++ rest' := by
    simpa using hjoin
  simp only [List.length_append] at hlt hover
  obtain ⟨shared, hshared⟩ : lead <+: sep := by
    refine List.prefix_of_prefix_length_le ⟨sep ++ rest, hrest⟩ ⟨rest', rfl⟩ ?_
    omega
  have hlength := congrArg List.length hshared
  simp only [List.length_append] at hlength
  -- behind the lead the separator is read again, and its end is what the two share
  have hagain : sep ++ rest = shared ++ rest' := by
    refine (List.append_right_inj lead).1 ?_
    rw [hrest, ← List.append_assoc, hshared]
  obtain ⟨tail, htail⟩ : shared <+: sep := by
    refine List.prefix_of_prefix_length_le ⟨rest', hagain.symm⟩ ⟨rest, rfl⟩ ?_
    omega
  refine ⟨lead, shared, tail, ?_, ?_, hshared.symm, htail.symm⟩
  · exact List.ne_nil_of_length_pos (by omega)
  · exact List.ne_nil_of_length_pos (by omega)

/-- A single character does not overlap itself. -/
theorem not_overlapsItself_of_length_eq_one {sep : List Char} (h : sep.length = 1) :
    ¬ OverlapsItself sep := by
  rintro ⟨lead, shared, tail, hlead, hshared, rfl, -⟩
  have hpos := List.length_pos_of_ne_nil hlead
  have hpos' := List.length_pos_of_ne_nil hshared
  rw [List.length_append] at h
  omega

end FunctionCalling.Text
