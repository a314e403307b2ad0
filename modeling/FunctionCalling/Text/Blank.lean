/-
  Blank text: nothing but white space.

  White space is the Unicode property `White_Space`, twenty-five characters.  Core's
  `Char.isWhitespace` knows only the ASCII ones among them (and not all of those), so the
  table stands here.
-/

namespace FunctionCalling.Text

/-- The ranges of the Unicode property `White_Space`, first and last code point. -/
def whiteSpaceRanges : List (Nat × Nat) :=
  [(0x09, 0x0D), (0x20, 0x20), (0x85, 0x85), (0xA0, 0xA0), (0x1680, 0x1680), (0x2000, 0x200A),
   (0x2028, 0x2029), (0x202F, 0x202F), (0x205F, 0x205F), (0x3000, 0x3000)]

/-- Whether a code point lies in one of the ranges. -/
def inRanges (ranges : List (Nat × Nat)) (n : Nat) : Bool :=
  ranges.any fun (lo, hi) => lo ≤ n && n ≤ hi

/-- A character with the property `White_Space`. -/
def isWhiteSpace (c : Char) : Bool :=
  inRanges whiteSpaceRanges c.toNat

/-- A text of white space only; the empty text is blank. -/
def isBlank (s : String) : Bool :=
  s.toList.all isWhiteSpace

example : isBlank "" = true := by decide
example : isBlank " \t\r\n" = true := by decide
example : isBlank " x" = false := by decide
example : (whiteSpaceRanges.map fun (lo, hi) => hi - lo + 1).sum = 25 := by decide

end FunctionCalling.Text
