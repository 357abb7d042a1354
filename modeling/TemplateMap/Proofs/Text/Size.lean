import Mathlib.Data.List.Flatten
import TemplateMap.Blob
import TemplateMap.Proofs.Text.Ascii
import TemplateMap.Proofs.Text.Lines

/-! How long texts are, in characters and in bytes: a text that is read from bytes, the lines of a
text, and the section of a dump are no longer than what they are made from. -/

namespace TemplateMap

namespace Utf8

/-- How many bytes a text has. -/
def size (t : Text) : Nat := (encode t).length

theorem size_append (a b : Text) : size (a ++ b) = size a + size b := by
  rw [size, encode_append, List.length_append, size, size]

theorem size_cons (c : Char) (t : Text) : size (c :: t) = (encodeChar c).length + size t := by
  rw [← List.singleton_append, size_append, size, encode, List.flatMap_singleton]

theorem one_le_length_encodeChar (c : Char) : 1 ≤ (encodeChar c).length := by
  unfold encodeChar
  simp only
  split
  · exact Nat.le_refl 1
  · split
    · simp
    · split <;> simp

theorem size_le_of_sublist {a b : Text} (h : a.Sublist b) : size a ≤ size b := by
  induction h with
  | slnil => exact Nat.le_refl _
  | cons c h ih =>
    rw [size_cons]
    omega
  | cons_cons c h ih =>
    rw [size_cons, size_cons]
    omega

/-- Every character is read from at least one byte. -/
theorem length_decodeLossy_le (bytes : Bytes) : (decodeLossy bytes).length ≤ bytes.length := by
  induction bytes using decodeLossy.induct with
  | case1 => simp [decodeLossy]
  | case2 b rest hnext ih =>
    rw [decodeLossy, List.length_cons, List.length_cons]
    omega

end Utf8

namespace Text

/-- How many characters lines have. -/
def charCount (lines : List Text) : Nat := lines.flatten.length

theorem charCount_cons (line : Text) (lines : List Text) :
    charCount (line :: lines) = line.length + charCount lines := List.length_append

theorem charCount_append (a b : List Text) : charCount (a ++ b) = charCount a + charCount b := by
  rw [charCount, List.flatten_append, List.length_append, charCount, charCount]

theorem charCount_drop_le (lines : List Text) (n : Nat) :
    charCount (lines.drop n) ≤ charCount lines := by
  have hsplit := charCount_append (lines.take n) (lines.drop n)
  rw [List.take_append_drop] at hsplit
  omega

theorem charCount_pieces (t : Text) : charCount t.pieces = t.length :=
  congrArg List.length (flatten_pieces t)

theorem length_dropCarriageReturn_le (line : Text) :
    (dropCarriageReturn line).length ≤ line.length := by
  unfold dropCarriageReturn
  split
  next rest h =>
    have hlength := congrArg List.length h
    rw [List.length_reverse, List.length_cons] at hlength
    rw [List.length_reverse]
    omega
  next => exact Nat.le_refl _

theorem length_dropLineEnd_le (piece : Text) : (dropLineEnd piece).length ≤ piece.length := by
  unfold dropLineEnd
  split
  next rest h =>
    have hlength := congrArg List.length h
    have hline := length_dropCarriageReturn_le rest.reverse
    rw [List.length_reverse] at hlength hline
    rw [List.length_cons] at hlength
    omega
  next => exact Nat.le_refl _

theorem charCount_lines_le (t : Text) : charCount t.lines ≤ t.length := by
  have hlines : ∀ pieces : List Text, charCount (pieces.map dropLineEnd) ≤ charCount pieces := by
    intro pieces
    induction pieces with
    | nil => exact Nat.le_refl _
    | cons piece pieces ih =>
      have hpiece := length_dropLineEnd_le piece
      rw [List.map_cons, charCount_cons, charCount_cons]
      omega
  exact charCount_pieces t ▸ hlines t.pieces

/-- Every piece has a character. -/
theorem length_pieces_le (t : Text) : t.pieces.length ≤ t.length := by
  induction t with
  | nil => exact Nat.le_refl _
  | cons c t ih =>
    rw [pieces, List.length_cons]
    split
    · rw [List.length_cons]
      omega
    · split
      next => simp
      next p ps h =>
        rw [h] at ih
        rw [List.length_cons] at ih ⊢
        omega

theorem length_lines_le (t : Text) : t.lines.length ≤ t.length := by
  rw [lines, List.length_map]
  exact length_pieces_le t

end Text

/-- A section is a part of its dump. -/
theorem Dump.size_section?_le {output header body : Text}
    (h : section? output header = some body) : Utf8.size body ≤ Utf8.size output := by
  unfold section? at h
  split at h
  next => cases h
  next found below hbelow =>
    obtain rfl := Option.some.inj h
    have hdropped : (found :: below).Sublist output.pieces := hbelow ▸ List.dropWhile_sublist _
    have hkept : (below.takeWhile isIndented).Sublist output.pieces :=
      (List.takeWhile_sublist _).trans ((List.sublist_cons_self found below).trans hdropped)
    have hbody := hkept.flatten
    rw [Text.flatten_pieces] at hbody
    exact Utf8.size_le_of_sublist hbody

end TemplateMap
