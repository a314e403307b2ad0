/-
  Where a long text is cut.

  `Text.truncate` goes through the characters of a text and counts their bytes.  The same can be
  done on the bytes alone: begin at the limit, go down until a character begins there, and keep
  the bytes before (`truncateByBytes?`).  That procedure can go wrong on its way.  It can run past
  the first byte, look beyond the last one, or cut through a character, and each of these is a
  failure of its parts (`boundaryFrom?`, `before?`).

  1. What is to be kept is the longest beginning of the text that fits the limit
     (`LongestBeginning`); there is at most one (`LongestBeginning.unique`), and of a text that is
     too long it leaves at most three bytes of the limit unused
     (`LongestBeginning.le_size_add_three`), since no character takes more than four.
  2. Counting characters keeps it (`longestBeginning_clip`).
  3. Going down never fails where it begins inside the text, and ends at the last boundary that is
     not above (`boundaryFrom?_spec`), where that beginning ends (`longestBeginning_of_boundary`).

  Hence the two agree on every text and every limit, and the second never fails
  (`truncateByBytes?_eq`, `truncate_keeps_longest_beginning`).
-/
import FunctionCalling.Proofs.ResultSizes

namespace FunctionCalling.Text

/-! ## The longest beginning that fits -/

/-- A text is the longest beginning of another one that takes at most `max` bytes. -/
structure LongestBeginning (max : Nat) (s kept : String) : Prop where
  beginning : ∃ rest : String, s = kept ++ rest
  fits : kept.utf8ByteSize ≤ max
  longest : ∀ other rest : String, s = other ++ rest → other.utf8ByteSize ≤ max →
    other.utf8ByteSize ≤ kept.utf8ByteSize

/-- Beginnings of one text that have the same number of bytes are the same. -/
theorem eq_of_append_eq_append {s t rest rest' : String} (h : s ++ rest = t ++ rest')
    (hsize : s.utf8ByteSize = t.utf8ByteSize) : s = t := by
  have hbytes : s.toByteArray ++ rest.toByteArray = t.toByteArray ++ rest'.toByteArray := by
    rw [← String.toByteArray_append, h, String.toByteArray_append]
  rw [← String.toByteArray_inj]
  calc s.toByteArray
      = (s.toByteArray ++ rest.toByteArray).extract 0 s.utf8ByteSize :=
        (ByteArray.extract_append_eq_left String.size_toByteArray.symm).symm
    _ = (t.toByteArray ++ rest'.toByteArray).extract 0 t.utf8ByteSize := by rw [hbytes, hsize]
    _ = t.toByteArray := ByteArray.extract_append_eq_left String.size_toByteArray.symm

namespace LongestBeginning

variable {max : Nat} {s kept other : String}

/-- There is at most one. -/
theorem unique (h : LongestBeginning max s kept) (h' : LongestBeginning max s other) :
    kept = other := by
  obtain ⟨rest, hrest⟩ := h.beginning
  obtain ⟨rest', hrest'⟩ := h'.beginning
  have hsize : kept.utf8ByteSize = other.utf8ByteSize :=
    Nat.le_antisymm (h'.longest kept rest hrest h.fits) (h.longest other rest' hrest' h'.fits)
  exact eq_of_append_eq_append (hrest.symm.trans hrest') hsize

/-- If the whole does not fit, one more character does not, and it has four bytes at most. -/
theorem le_size_add_three (h : LongestBeginning max s kept) (hlong : max < s.utf8ByteSize) :
    max ≤ kept.utf8ByteSize + 3 := by
  obtain ⟨rest, rfl⟩ := h.beginning
  obtain ⟨c, more, hmore⟩ : ∃ (c : Char) (more : List Char), rest.toList = c :: more := by
    cases hchars : rest.toList with
    | nil =>
      have hfits := h.fits
      rw [String.toList_eq_nil_iff.mp hchars, String.append_empty] at hlong
      omega
    | cons c more => exact ⟨c, more, rfl⟩
  have hsplit : kept ++ rest = (kept ++ String.singleton c) ++ String.ofList more := by
    apply String.ext
    simp [hmore]
  have hnext : max < (kept ++ String.singleton c).utf8ByteSize := by
    refine Nat.lt_of_not_le fun hfits => ?_
    have hle := h.longest _ _ hsplit hfits
    rw [String.utf8ByteSize_append, String.utf8ByteSize_singleton] at hle
    have hpos := c.utf8Size_pos
    omega
  rw [String.utf8ByteSize_append, String.utf8ByteSize_singleton] at hnext
  have hfour := c.utf8Size_le_four
  omega

end LongestBeginning

/-! ## Counting characters -/

/-- Whatever fits is among the characters that are left. -/
theorem prefix_clipChars {max : Nat} {p s : List Char} (h : p <+: s)
    (hfits : String.utf8Len p ≤ max) : p <+: clipChars max s := by
  induction s generalizing max p with
  | nil => simpa [clipChars] using h
  | cons c s ih =>
    cases p with
    | nil => exact List.nil_prefix
    | cons c' p =>
      obtain ⟨rfl, hrest⟩ := List.cons_prefix_cons.mp h
      rw [String.utf8Len_cons] at hfits
      rw [clipChars, if_pos (by omega), List.cons_prefix_cons]
      exact ⟨rfl, ih hrest (by omega)⟩

/-- What a text is clipped to is its longest beginning that fits. -/
theorem longestBeginning_clip (max : Nat) (s : String) : LongestBeginning max s (clip max s) where
  beginning := by
    obtain ⟨rest, hrest⟩ := clipChars_prefix max s.toList
    refine ⟨String.ofList rest, String.ext ?_⟩
    simpa [clip] using hrest.symm
  fits := utf8ByteSize_clip_le max s
  longest := by
    intro other rest hs hfits
    have hprefix : other.toList <+: s.toList := by
      rw [hs, String.toList_append]
      exact List.prefix_append _ _
    rw [← String.utf8Len_toList] at hfits
    rw [clip, String.utf8ByteSize_ofList, ← String.utf8Len_toList]
    exact String.utf8Len_le_of_prefix (prefix_clipChars hprefix hfits)

/-! ## Going down through the bytes -/

/-- Whether a character begins at a byte, or the text ends there. -/
def isBoundary (s : String) (i : Nat) : Bool :=
  String.Pos.Raw.isValid s ⟨i⟩

/-- The last boundary that is not above `i`, byte by byte.  There is none if the way leads below
    the first byte or past the end. -/
def boundaryFrom? (s : String) : Nat → Option Nat
  | 0 => if isBoundary s 0 then some 0 else none
  | i + 1 =>
    if s.utf8ByteSize < i + 1 then none
    else if isBoundary s (i + 1) then some (i + 1)
    else boundaryFrom? s i

/-- The text before a byte, if that is a boundary and the bytes before are a text. -/
def before? (s : String) (i : Nat) : Option String :=
  if isBoundary s i then String.fromUTF8? (s.toByteArray.extract 0 i) else none

/-- A text cut to at most `max` bytes, on its bytes alone. -/
def truncateByBytes? (max : Nat) (s : String) : Option String :=
  if s.utf8ByteSize ≤ max then some s
  else do
    let cut ← boundaryFrom? s max
    let kept ← before? s cut
    return kept ++ truncationNotice s.utf8ByteSize

/-- The boundaries are the ends of the beginnings. -/
theorem isBoundary_iff {s : String} {i : Nat} :
    isBoundary s i = true ↔ ∃ kept rest : String, s = kept ++ rest ∧ i = kept.utf8ByteSize := by
  rw [isBoundary, String.Pos.Raw.isValid_eq_true_iff, String.Pos.Raw.isValid_iff_exists_append]
  simp only [String.Pos.Raw.ext_iff, String.byteIdx_rawEndPos]

theorem isBoundary_zero (s : String) : isBoundary s 0 = true :=
  isBoundary_iff.mpr ⟨"", s, by simp, by simp⟩

/-- From inside a text, going down ends at a boundary and leaves none out. -/
theorem boundaryFrom?_spec {s : String} {i : Nat} (h : i ≤ s.utf8ByteSize) :
    ∃ cut, boundaryFrom? s i = some cut ∧ cut ≤ i ∧ isBoundary s cut = true ∧
      ∀ j, isBoundary s j = true → j ≤ i → j ≤ cut := by
  induction i with
  | zero =>
    refine ⟨0, ?_, Nat.le_refl 0, isBoundary_zero s, fun j _ hj => hj⟩
    rw [boundaryFrom?, if_pos (isBoundary_zero s)]
  | succ i ih =>
    rw [boundaryFrom?, if_neg (by omega)]
    split
    next hhere => exact ⟨i + 1, rfl, Nat.le_refl _, hhere, fun j _ hj => hj⟩
    next hinside =>
      obtain ⟨cut, hcut, hle, hboundary, hlast⟩ := ih (by omega)
      refine ⟨cut, hcut, by omega, hboundary, fun j hj hji => ?_⟩
      have hne : j ≠ i + 1 := by
        rintro rfl
        exact hinside hj
      exact hlast j hj (by omega)

/-- A beginning can be taken out by its number of bytes. -/
theorem before?_append (kept rest : String) :
    before? (kept ++ rest) kept.utf8ByteSize = some kept := by
  have hboundary : isBoundary (kept ++ rest) kept.utf8ByteSize = true :=
    isBoundary_iff.mpr ⟨kept, rest, rfl, rfl⟩
  have hbytes : (kept ++ rest).toByteArray.extract 0 kept.utf8ByteSize = kept.toByteArray := by
    rw [String.toByteArray_append]
    exact ByteArray.extract_append_eq_left String.size_toByteArray.symm
  rw [before?, if_pos hboundary, hbytes, String.fromUTF8?, dif_pos kept.isValidUTF8]
  rfl

/-- Before the last boundary that is not above the limit is the longest beginning that fits. -/
theorem longestBeginning_of_boundary {max cut : Nat} {s : String} (hle : cut ≤ max)
    (hboundary : isBoundary s cut = true)
    (hlast : ∀ j, isBoundary s j = true → j ≤ max → j ≤ cut) :
    ∃ kept, LongestBeginning max s kept ∧ cut = kept.utf8ByteSize := by
  obtain ⟨kept, rest, hs, rfl⟩ := isBoundary_iff.mp hboundary
  refine ⟨kept, ⟨⟨rest, hs⟩, hle, fun other rest' hs' hfits => ?_⟩, rfl⟩
  exact hlast _ (isBoundary_iff.mpr ⟨other, rest', hs', rfl⟩) hfits

/-- In a text that is too long, going down from the limit ends where the clipped text does. -/
theorem boundaryFrom?_eq_size_clip {max : Nat} {s : String} (hlong : max < s.utf8ByteSize) :
    boundaryFrom? s max = some (clip max s).utf8ByteSize := by
  obtain ⟨cut, hcut, hle, hboundary, hlast⟩ := boundaryFrom?_spec (Nat.le_of_lt hlong)
  obtain ⟨kept, hkept, rfl⟩ := longestBeginning_of_boundary hle hboundary hlast
  rw [hcut, hkept.unique (longestBeginning_clip max s)]

/-- On the bytes alone comes out what counting the characters gives, and nothing fails. -/
theorem truncateByBytes?_eq (max : Nat) (s : String) :
    truncateByBytes? max s = some (truncate max s) := by
  unfold truncateByBytes? truncate
  split
  next => rfl
  next hlong =>
    obtain ⟨rest, hs⟩ := (longestBeginning_clip max s).beginning
    have hbefore : before? s (clip max s).utf8ByteSize = some (clip max s) := by
      have happend := before?_append (clip max s) rest
      rwa [← hs] at happend
    rw [boundaryFrom?_eq_size_clip (by omega), Option.bind_eq_bind,
      Option.bind_some, hbefore]
    rfl

/-- **A result that is too long keeps its longest beginning that fits**, and is followed by the
    number of bytes it had; one that fits is left alone.  Going down through the bytes from the
    limit finds the same cut and never fails, wherever the limit lies among the bytes of a
    character, and at most three bytes of the limit are left unused. -/
theorem truncate_keeps_longest_beginning (max : Nat) (s : String) :
    truncateByBytes? max s = some (truncate max s) ∧
    (s.utf8ByteSize ≤ max → truncate max s = s) ∧
    (max < s.utf8ByteSize → ∃ kept : String,
      LongestBeginning max s kept ∧ max ≤ kept.utf8ByteSize + 3 ∧
      boundaryFrom? s max = some kept.utf8ByteSize ∧
      truncate max s =
        kept ++ ("...\n[truncated: " ++ toString s.utf8ByteSize ++ " bytes total]")) := by
  refine ⟨truncateByBytes?_eq max s, fun hfits => if_pos hfits, fun hlong => ?_⟩
  have hclip := longestBeginning_clip max s
  refine ⟨clip max s, hclip, hclip.le_size_add_three hlong, boundaryFrom?_eq_size_clip hlong, ?_⟩
  exact if_neg (by omega)

/-- The limit lies within the two bytes of a character, so that one more byte is left out. -/
theorem truncate_keeps_longest_beginning_within :
    2 < "héllo world".utf8ByteSize ∧
    (∃ kept : String,
      LongestBeginning 2 "héllo world" kept ∧ 2 ≤ kept.utf8ByteSize + 3 ∧
      boundaryFrom? "héllo world" 2 = some kept.utf8ByteSize ∧
      truncate 2 "héllo world" =
        kept ++ ("...\n[truncated: " ++ toString "héllo world".utf8ByteSize ++ " bytes total]")) ∧
    "short".utf8ByteSize ≤ 10 ∧ truncate 10 "short" = "short" := by
  have hlong : 2 < "héllo world".utf8ByteSize := by decide
  have hfits : "short".utf8ByteSize ≤ 10 := by decide
  exact ⟨hlong, (truncate_keeps_longest_beginning 2 "héllo world").2.2 hlong, hfits,
    (truncate_keeps_longest_beginning 10 "short").2.1 hfits⟩

-- a character of four bytes that ends one byte past the limit leaves three of them unused
example : truncateByBytes? 4 "a𝄞b" = some "a...\n[truncated: 6 bytes total]" := by decide +kernel

end FunctionCalling.Text
