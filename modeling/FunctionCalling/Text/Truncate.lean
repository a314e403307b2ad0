/-
  Results cut to a number of bytes.

  Lengths are counted in UTF-8 bytes, but a text is cut between characters only: `clip max s`
  is the longest beginning of `s` that takes at most `max` bytes.  `truncate` leaves a text
  that fits alone and otherwise appends a notice with the byte count of the whole.
-/

namespace FunctionCalling.Text

/-- The longest beginning of a list of characters that takes at most `max` bytes. -/
def clipChars : Nat → List Char → List Char
  | _, [] => []
  | max, c :: s => if c.utf8Size ≤ max then c :: clipChars (max - c.utf8Size) s else []

/-- The longest beginning of a text that takes at most `max` bytes. -/
def clip (max : Nat) (s : String) : String :=
  String.ofList (clipChars max s.toList)

/-- The notice that follows a text cut short, with the byte count of the whole text. -/
def truncationNotice (total : Nat) : String :=
  "...\n[truncated: " ++ toString total ++ " bytes total]"

/-- A text within `max` bytes as it is; a longer one clipped and followed by the notice. -/
def truncate (max : Nat) (s : String) : String :=
  if s.utf8ByteSize ≤ max then s else clip max s ++ truncationNotice s.utf8ByteSize

theorem clipChars_prefix (max : Nat) (s : List Char) : clipChars max s <+: s := by
  induction s generalizing max with
  | nil => simp [clipChars]
  | cons c s ih =>
    rw [clipChars]
    split
    · simpa using ih (max - c.utf8Size)
    · simp

example : truncate 4 "abcde" = "abcd...\n[truncated: 5 bytes total]" := by decide +kernel
example : clip 4 "日本" = "日" := by decide +kernel

end FunctionCalling.Text
