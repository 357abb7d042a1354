import TemplateMap.Proofs.Text.Occurrence
import TemplateMap.Text.Utf8

/-! ASCII texts: their bytes are their characters, so every reader of bytes gives the text back, and
a search among the bytes is a search in the text. -/

namespace TemplateMap

/-- Every character is below 128. -/
def IsAscii (t : Text) : Prop := ∀ c ∈ t, c.toNat < 128

instance : DecidablePred IsAscii := fun t =>
  decidable_of_iff (t.all fun c => c.toNat < 128) (by simp [IsAscii])

namespace IsAscii

variable {s t : Text} {c : Char}

theorem cons_iff : IsAscii (c :: t) ↔ c.toNat < 128 ∧ IsAscii t := List.forall_mem_cons

theorem notMem (h : IsAscii t) (hc : 128 ≤ c.toNat) : c ∉ t := fun hmem =>
  Nat.not_le.mpr (h c hmem) hc

theorem append_iff : IsAscii (s ++ t) ↔ IsAscii s ∧ IsAscii t := List.forall_mem_append

end IsAscii

namespace Utf8

variable {part t : Text}

theorem encode_append (s t : Text) : encode (s ++ t) = encode s ++ encode t := List.flatMap_append

theorem encode_cons {c : Char} (h : c.toNat < 128) (t : Text) :
    encode (c :: t) = UInt8.ofNat c.toNat :: encode t := by
  simp [encode, encodeChar, h]

/-- The byte of an ASCII character has its code point. -/
theorem toNat_ofNat_of_lt {n : Nat} (h : n < 128) : (UInt8.ofNat n).toNat = n := by
  rw [UInt8.toNat_ofNat']
  omega

theorem next_of_lt {b : UInt8} (h : b.toNat < 128) (rest : Bytes) :
    next b rest = (some (Char.ofNat b.toNat), rest) := by
  have hlead : lead? b.toNat = some (0, 0, 0) := if_pos h
  unfold next
  rw [hlead]
  rfl

theorem decodeLossy_encode (h : IsAscii t) : decodeLossy (encode t) = t := by
  induction t with
  | nil => simp [encode, decodeLossy]
  | cons c t ih =>
    obtain ⟨hc, ht⟩ := IsAscii.cons_iff.mp h
    have hbyte := toNat_ofNat_of_lt hc
    rw [encode_cons hc, decodeLossy, next_of_lt (by omega), hbyte, Char.ofNat_toNat]
    exact congrArg (c :: ·) (ih ht)

end Utf8

namespace Latin1

theorem decode_encode {t : Text} (h : IsAscii t) : decode (Utf8.encode t) = t := by
  induction t with
  | nil => rfl
  | cons c t ih =>
    obtain ⟨hc, ht⟩ := IsAscii.cons_iff.mp h
    rw [Utf8.encode_cons hc, decode, List.map_cons, Utf8.toNat_ofNat_of_lt hc, Char.ofNat_toNat]
    exact congrArg (c :: ·) (ih ht)

theorem toNat_char (b : UInt8) : (Char.ofNat b.toNat).toNat = b.toNat := by
  rw [Char.ofNat, dif_pos (.inl (b.toNat_lt.trans (by decide)))]
  rfl

theorem char_injective : Function.Injective fun b : UInt8 => Char.ofNat b.toNat := by
  intro b b' h
  have hchar := congrArg Char.toNat h
  simp only [toNat_char] at hchar
  exact UInt8.toNat_inj.mp hchar

end Latin1

namespace Utf8

variable {part t : Text}

theorem length_encode (h : IsAscii t) : (encode t).length = t.length := by
  conv_rhs => rw [← Latin1.decode_encode h, Latin1.decode, List.length_map]

/-- A search for an ASCII text among the bytes of one is a search in its characters. -/
theorem firstOccurrence?_encode (hpart : IsAscii part) (ht : IsAscii t) :
    firstOccurrence? (encode part) (encode t) = firstOccurrence? part t := by
  conv_rhs => rw [← Latin1.decode_encode hpart, ← Latin1.decode_encode ht]
  exact (firstOccurrence?_map Latin1.char_injective).symm

end Utf8

end TemplateMap
