/-
  Names compared without regard to ASCII case, and the characters a name may hold.

  Registered names, the names a model sends back and the keys under which calls are counted
  all compare the same way: the twenty-six capitals A-Z equal their small letters, and every
  other character equals only itself.  `fold` maps a text to the one representative of its
  class, so "equal ignoring case" is equality of folds, and `fold` itself serves as a key.
-/

namespace FunctionCalling.Text

/-! ## Folding -/

/-- Lowers the capitals A-Z and leaves every other character alone. -/
def fold (s : String) : String :=
  String.ofList (s.toList.map Char.toLower)

/-- Two texts are the same name when they differ in the case of ASCII letters only. -/
def sameName (a b : String) : Bool :=
  fold a == fold b

/-- `sameName` is equality of folds. -/
theorem sameName_iff {a b : String} : sameName a b = true ↔ fold a = fold b := by
  simp [sameName]

@[simp] theorem sameName_refl (a : String) : sameName a a = true := by
  simp [sameName]

@[simp] theorem fold_append (a b : String) : fold (a ++ b) = fold a ++ fold b := by
  rw [← String.toList_inj]
  simp [fold]

/-- Only the empty text folds to the empty text. -/
@[simp] theorem fold_eq_empty_iff {s : String} : fold s = "" ↔ s = "" := by
  rw [← String.toList_inj, ← String.toList_inj]
  simp [fold]

/-! ## Name characters -/

/-- The characters of plugin and function names: ASCII letters, digits and the underscore. -/
def isNameChar (c : Char) : Bool :=
  c.isAlphanum || c == '_'

/-- A valid name is not empty and holds name characters only. -/
def isName (s : String) : Bool :=
  !s.isEmpty && s.toList.all isNameChar

theorem isNameChar_of_isName {s : String} (h : isName s = true) :
    ∀ c ∈ s.toList, isNameChar c = true := by
  simp only [isName, Bool.and_eq_true] at h
  exact List.all_eq_true.1 h.2

theorem ne_empty_of_isName {s : String} (h : isName s = true) : s ≠ "" := by
  rintro rfl
  exact absurd h (by decide)

example : sameName "GetTime" "getTIME" = true := by decide
example : isName "My_Plugin2" = true := by decide
example : isName "a-b" = false := by decide

end FunctionCalling.Text
