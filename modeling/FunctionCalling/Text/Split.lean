/-
  Where a separator occurs in a text.

  Two questions are asked of a text `s` and a separator:

  1. `splitFirst sep s`: the text before and after the FIRST occurrence;
  2. `splits sep s`: the same pair for each occurrence found by scanning from the left, where
     the scan resumes AFTER an occurrence, so occurrences that overlap one already found are
     passed over.

  Both work on lists of characters.  `before ++ sep ++ after = s` holds for every pair found.  The
  scan is the search for the first occurrence, over and over, behind the one found last
  (`splitsFrom_of_splitFirst`).
-/

namespace FunctionCalling.Text

/-- What follows `lead` in a text that begins with it. -/
def dropLead? : List Char → List Char → Option (List Char)
  | [], s => some s
  | _ :: _, [] => none
  | c :: lead, d :: s => if c = d then dropLead? lead s else none

theorem dropLead?_eq_some_iff {lead s rest : List Char} :
    dropLead? lead s = some rest ↔ s = lead ++ rest := by
  induction lead generalizing s with
  | nil => simp [dropLead?]
  | cons c lead ih =>
    cases s with
    | nil => simp [dropLead?]
    | cons d s =>
      by_cases h : c = d
      · simp [dropLead?, h, ih]
      · simp [dropLead?, h, Ne.symm h]

/-- The text before and after the first occurrence of `sep`. -/
def splitFirst (sep : List Char) : List Char → Option (List Char × List Char)
  | [] => (dropLead? sep []).map ([], ·)
  | c :: s =>
    match dropLead? sep (c :: s) with
    | some rest => some ([], rest)
    | none => (splitFirst sep s).map fun (before, rest) => (c :: before, rest)

/-- A split puts the text back together. -/
theorem append_of_splitFirst {sep s before rest : List Char}
    (h : splitFirst sep s = some (before, rest)) : s = before ++ sep ++ rest := by
  induction s generalizing before with
  | nil =>
    simp only [splitFirst, Option.map_eq_some_iff, Prod.mk.injEq] at h
    obtain ⟨r, hr, rfl, rfl⟩ := h
    simpa using dropLead?_eq_some_iff.1 hr
  | cons c s ih =>
    simp only [splitFirst] at h
    split at h
    next r hr =>
      simp only [Option.some.injEq, Prod.mk.injEq] at h
      obtain ⟨rfl, rfl⟩ := h
      simpa using dropLead?_eq_some_iff.1 hr
    next =>
      simp only [Option.map_eq_some_iff, Prod.mk.injEq] at h
      obtain ⟨⟨b, r⟩, hs, rfl, rfl⟩ := h
      simp [ih hs]

/-- A separator that occurs is found, wherever else it may occur. -/
theorem isSome_splitFirst (before sep rest : List Char) :
    (splitFirst sep (before ++ sep ++ rest)).isSome = true := by
  induction before with
  | nil =>
    have hlead : dropLead? sep (sep ++ rest) = some rest := dropLead?_eq_some_iff.2 rfl
    rw [List.nil_append]
    cases h : sep ++ rest with
    | nil =>
      rw [h] at hlead
      simp [splitFirst, hlead]
    | cons c s =>
      rw [h] at hlead
      simp [splitFirst, hlead]
  | cons c before ih =>
    simp only [List.cons_append, splitFirst]
    split
    · rfl
    · rw [Option.isSome_map]
      exact ih

/-- Two occurrences that begin at one place are one. -/
theorem eq_of_join_eq_of_length_eq {sep before rest before' rest' : List Char}
    (h : before ++ sep ++ rest = before' ++ sep ++ rest')
    (hlength : before.length = before'.length) : before = before' ∧ rest = rest' := by
  rw [List.append_assoc, List.append_assoc] at h
  obtain ⟨hlead, htail⟩ := List.append_inj h hlength
  exact ⟨hlead, List.append_cancel_left htail⟩

/-- The scan behind `splits`: `before` is what has been passed, in reverse, and `skip` counts
    the characters of the last occurrence that are still to be passed. -/
def splitsFrom (sep : List Char) (before : List Char) : Nat → List Char →
    List (List Char × List Char)
  | _, [] => []
  | skip + 1, c :: s => splitsFrom sep (c :: before) skip s
  | 0, c :: s =>
    match dropLead? sep (c :: s) with
    | some rest => (before.reverse, rest) :: splitsFrom sep (c :: before) (sep.length - 1) s
    | none => splitsFrom sep (c :: before) 0 s

/-- The text before and after each occurrence of a separator that is not empty, occurrences
    taken from the left and never overlapping. -/
def splits (sep s : List Char) : List (List Char × List Char) :=
  splitsFrom sep [] 0 s

theorem append_of_mem_splitsFrom {sep before s : List Char} {skip : Nat}
    {p : List Char × List Char} (h : p ∈ splitsFrom sep before skip s) :
    before.reverse ++ s = p.1 ++ sep ++ p.2 := by
  induction s generalizing before skip with
  | nil => simp [splitsFrom] at h
  | cons c s ih =>
    cases skip with
    | succ skip =>
      rw [splitsFrom] at h
      simpa using ih h
    | zero =>
      simp only [splitsFrom] at h
      split at h
      next rest hr =>
        rcases List.mem_cons.1 h with rfl | h
        · simp [dropLead?_eq_some_iff.1 hr]
        · simpa using ih h
      next => simpa using ih h

/-- Every pair of `splits` puts the text back together. -/
theorem append_of_mem_splits {sep s : List Char} {p : List Char × List Char}
    (h : p ∈ splits sep s) : s = p.1 ++ sep ++ p.2 := by
  simpa using append_of_mem_splitsFrom h

/-- What has to be passed is passed. -/
theorem splitsFrom_append (sep before skipped s : List Char) :
    splitsFrom sep before skipped.length (skipped ++ s) =
      splitsFrom sep (skipped.reverse ++ before) 0 s := by
  induction skipped generalizing before with
  | nil => rfl
  | cons c skipped ih =>
    rw [List.length_cons, List.cons_append, splitsFrom, ih]
    simp

/-- Where the separator does not occur, the scan meets nothing. -/
theorem splitsFrom_of_splitFirst_eq_none {sep s : List Char} (h : splitFirst sep s = none)
    (before : List Char) : splitsFrom sep before 0 s = [] := by
  induction s generalizing before with
  | nil => rfl
  | cons c s ih =>
    simp only [splitFirst] at h
    split at h
    · cases h
    next hlead =>
      simp only [splitsFrom, hlead]
      exact ih (Option.map_eq_none_iff.1 h) (c :: before)

/-- Otherwise it meets the first occurrence, and then goes on behind it. -/
theorem splitsFrom_of_splitFirst {sep : List Char} (hsep : sep ≠ []) {s before' rest : List Char}
    (h : splitFirst sep s = some (before', rest)) (before : List Char) :
    splitsFrom sep before 0 s = (before.reverse ++ before', rest) ::
      splitsFrom sep ((before' ++ sep).reverse ++ before) 0 rest := by
  induction s generalizing before before' with
  | nil =>
    obtain ⟨c, sep, rfl⟩ := List.exists_cons_of_ne_nil hsep
    cases h
  | cons c s ih =>
    simp only [splitFirst] at h
    split at h
    next r hlead =>
      obtain ⟨rfl, rfl⟩ := Prod.mk.inj (Option.some.inj h)
      -- the scan is at the first character of the separator and passes the others
      obtain ⟨d, skipped, rfl⟩ := List.exists_cons_of_ne_nil hsep
      have hjoin : c :: s = d :: (skipped ++ r) := dropLead?_eq_some_iff.1 hlead
      obtain ⟨rfl, rfl⟩ := List.cons.inj hjoin
      simp only [splitsFrom, hlead, List.length_cons, Nat.add_sub_cancel, splitsFrom_append]
      simp
    next hlead =>
      obtain ⟨⟨b, r⟩, hsplit, hcons⟩ := Option.map_eq_some_iff.1 h
      obtain ⟨rfl, rfl⟩ := Prod.mk.inj hcons
      simp only [splitsFrom, hlead, ih hsplit (c :: before)]
      simp

theorem head?_splitsFrom {sep : List Char} (hsep : sep ≠ []) (before s : List Char) :
    (splitsFrom sep before 0 s).head? =
      (splitFirst sep s).map fun p => (before.reverse ++ p.1, p.2) := by
  cases h : splitFirst sep s with
  | none =>
    rw [splitsFrom_of_splitFirst_eq_none h]
    rfl
  | some parts =>
    rw [splitsFrom_of_splitFirst hsep h]
    rfl

/-- The first of all splits is the split at the first occurrence. -/
theorem head?_splits {sep : List Char} (hsep : sep ≠ []) (s : List Char) :
    (splits sep s).head? = splitFirst sep s := by
  rw [splits, head?_splitsFrom hsep]
  simp

example : splitFirst ['-'] "a-b-c".toList = some (['a'], ['b', '-', 'c']) := by decide
example : (splits ['_'] "a_b_c".toList).length = 2 := by decide
example : (splits ['_', '_'] "a___b".toList).length = 1 := by decide

end FunctionCalling.Text
