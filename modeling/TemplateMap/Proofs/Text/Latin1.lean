import TemplateMap.Proofs.Text.Ascii
import TemplateMap.Proofs.Text.Lines

/-! A text read with one character for each of its bytes.  The bytes of a character that is not
ASCII are none that an ASCII character has, so ASCII parts stand in the reading where they stand in
the text, and the reading has the lines of the text. -/

namespace TemplateMap

namespace Utf8

/-- A character that is not ASCII has a lead byte and others, all of them past ASCII. -/
theorem encodeChar_of_le {c : Char} (h : 128 ≤ c.toNat) :
    ∃ lead rest, encodeChar c = lead :: rest ∧ 192 ≤ lead.toNat ∧ ∀ b ∈ rest, 128 ≤ b.toNat := by
  have hlast : c.toNat < 1114112 := by
    rcases c.valid with hvalid | hvalid
    · exact Nat.lt_trans hvalid (by decide)
    · exact hvalid.2
  unfold encodeChar
  simp only [Nat.not_lt.mpr h, if_false]
  split_ifs <;> refine ⟨_, _, rfl, ?_, ?_⟩ <;>
    simp only [List.forall_mem_cons, List.not_mem_nil, IsEmpty.forall_iff, implies_true, and_true,
      UInt8.toNat_ofNat'] <;> omega

end Utf8

namespace Latin1

variable {c : Char} {t part rest : Text}

/-! ### The bytes of a character -/

/-- A character for each byte of one character. -/
def ofChar (c : Char) : Text := decode (Utf8.encodeChar c)

theorem ofChar_of_lt (h : c.toNat < 128) : ofChar c = [c] := by
  rw [ofChar, Utf8.encodeChar, if_pos h, decode, List.map_singleton, Utf8.toNat_ofNat_of_lt h,
    Char.ofNat_toNat]

/-- No byte of a character that is not ASCII is ASCII, and the first one is no white space. -/
theorem ofChar_of_le (h : 128 ≤ c.toNat) :
    ∃ lead others, ofChar c = lead :: others ∧ isBlank lead = false ∧
      ∀ x ∈ ofChar c, 128 ≤ x.toNat := by
  obtain ⟨lead, others, hbytes, hlead, hothers⟩ := Utf8.encodeChar_of_le h
  refine ⟨_, _, by rw [ofChar, hbytes]; rfl, ?_, ?_⟩
  · have hlt := lead.toNat_lt
    simp only [isBlank, toNat_char, Bool.or_eq_false_iff, Bool.and_eq_false_iff,
      decide_eq_false_iff_not, beq_eq_false_iff_ne]
    omega
  · intro x hx
    rw [ofChar, hbytes, decode, List.mem_map] at hx
    obtain ⟨b, hb, rfl⟩ := hx
    rw [toNat_char]
    rcases List.mem_cons.mp hb with rfl | hb
    · omega
    · exact hothers b hb

theorem ofChar_ne_nil (c : Char) : ofChar c ≠ [] := by
  rcases Nat.lt_or_ge c.toNat 128 with hlt | hge
  · simp [ofChar_of_lt hlt]
  · obtain ⟨lead, others, hbytes, -⟩ := ofChar_of_le hge
    simp [hbytes]

/-! ### The bytes of a text -/

theorem ofText_eq_flatMap (t : Text) : ofText t = t.flatMap ofChar := by
  simp only [ofText, Utf8.encode, decode, List.map_flatMap]
  rfl

@[simp] theorem ofText_nil : ofText [] = [] := rfl

theorem ofText_append (s t : Text) : ofText (s ++ t) = ofText s ++ ofText t := by
  simp only [ofText_eq_flatMap, List.flatMap_append]

theorem ofText_cons (c : Char) (t : Text) : ofText (c :: t) = ofChar c ++ ofText t := by
  simp only [ofText_eq_flatMap, List.flatMap_cons]

theorem ofText_eq_nil_iff : ofText t = [] ↔ t = [] := by
  cases t with
  | nil => simp
  | cons c t => simp [ofText_cons, ofChar_ne_nil]

theorem ofText_of_ascii (h : IsAscii t) : ofText t = t := decode_encode h

theorem mem_ofText_of_lt (h : c.toNat < 128) : c ∈ ofText t ↔ c ∈ t := by
  rw [ofText_eq_flatMap, List.mem_flatMap]
  constructor
  · rintro ⟨d, hd, hc⟩
    rcases Nat.lt_or_ge d.toNat 128 with hlt | hge
    · rw [ofChar_of_lt hlt, List.mem_singleton] at hc
      exact hc ▸ hd
    · obtain ⟨-, -, -, -, hforeign⟩ := ofChar_of_le hge
      have := hforeign c hc
      omega
  · intro hc
    exact ⟨c, hc, by rw [ofChar_of_lt h]; exact List.mem_singleton_self c⟩

/-! ### ASCII parts -/

/-- Where a map leaves ASCII characters alone and starts all others with one that no part in `p`
has, such a part at the start of the image is ASCII and at the start of the text. -/
theorem exists_append_of_flatMap {f : Char → Text} {p : Char → Prop}
    (hascii : ∀ c : Char, c.toNat < 128 → f c = [c])
    (hforeign : ∀ c : Char, 128 ≤ c.toNat → ∃ x others, f c = x :: others ∧ ¬ p x)
    (hpart : ∀ x ∈ part, p x) (h : t.flatMap f = part ++ rest) :
    IsAscii part ∧ ∃ tail, t = part ++ tail ∧ tail.flatMap f = rest := by
  induction part generalizing t with
  | nil => exact ⟨nofun, t, rfl, h⟩
  | cons x part ih =>
    obtain ⟨hx, hothers⟩ := List.forall_mem_cons.mp hpart
    cases t with
    | nil => cases h
    | cons c t =>
      rcases Nat.lt_or_ge c.toNat 128 with hlt | hge
      · rw [List.flatMap_cons, hascii c hlt] at h
        obtain ⟨rfl, hrest⟩ := List.cons.inj h
        obtain ⟨hasciiPart, tail, rfl, htail⟩ := ih hothers hrest
        exact ⟨IsAscii.cons_iff.mpr ⟨hlt, hasciiPart⟩, tail, rfl, htail⟩
      · obtain ⟨y, others, hy, hnot⟩ := hforeign c hge
        rw [List.flatMap_cons, hy] at h
        exact absurd ((List.cons.inj h).1 ▸ hx) hnot

/-- White space among the bytes that does not follow a part of a character is ASCII. -/
theorem exists_append_of_ofText (hpart : ∀ x ∈ part, x.toNat < 128 ∨ isBlank x = true)
    (h : ofText t = part ++ rest) :
    IsAscii part ∧ ∃ tail, t = part ++ tail ∧ ofText tail = rest := by
  simp only [ofText_eq_flatMap] at h ⊢
  refine exists_append_of_flatMap (fun c => ofChar_of_lt) (fun c hc => ?_) hpart h
  obtain ⟨lead, others, hbytes, hlead, hforeign⟩ := ofChar_of_le hc
  have hge := hforeign lead (hbytes ▸ List.mem_cons_self)
  exact ⟨lead, others, hbytes, by simp [hlead, hge]⟩

theorem prefix_ofText_iff (hpart : IsAscii part) : part <+: ofText t ↔ part <+: t := by
  constructor
  · rintro ⟨rest, hrest⟩
    obtain ⟨-, tail, rfl, -⟩ := exists_append_of_ofText (fun x hx => .inl (hpart x hx)) hrest.symm
    exact List.prefix_append part tail
  · rintro ⟨tail, rfl⟩
    rw [ofText_append, ofText_of_ascii hpart]
    exact List.prefix_append part _

theorem suffix_ofText_iff (hpart : IsAscii part) : part <:+ ofText t ↔ part <:+ t := by
  constructor
  · rintro ⟨rest, hrest⟩
    have hreverse : t.reverse.flatMap (List.reverse ∘ ofChar) = part.reverse ++ rest.reverse := by
      rw [← List.reverse_flatMap, ← ofText_eq_flatMap, ← hrest, List.reverse_append]
    have hlast : ∀ c : Char, 128 ≤ c.toNat →
        ∃ x others, (List.reverse ∘ ofChar) c = x :: others ∧ ¬ x.toNat < 128 := fun c hc => by
      obtain ⟨-, -, -, -, hforeign⟩ := ofChar_of_le hc
      obtain ⟨x, others, hx⟩ :=
        List.exists_cons_of_ne_nil (List.reverse_ne_nil_iff.mpr (ofChar_ne_nil c))
      have hmem : x ∈ ofChar c := List.mem_reverse.mp (hx ▸ List.mem_cons_self)
      exact ⟨x, others, hx, Nat.not_lt.mpr (hforeign x hmem)⟩
    obtain ⟨-, tail, htail, -⟩ := exists_append_of_flatMap
      (fun c hc => by simp [ofChar_of_lt hc]) hlast
      (fun c hc => hpart c (List.mem_reverse.mp hc)) hreverse
    rw [← List.reverse_prefix, htail]
    exact List.prefix_append part.reverse tail
  · rintro ⟨before, rfl⟩
    rw [ofText_append, ofText_of_ascii hpart]
    exact List.suffix_append _ part

/-- An ASCII part first occurs among the bytes of a text where it first occurs in the text. -/
theorem firstOccurrence?_ofText (hpart : IsAscii part) (t : Text) :
    firstOccurrence? part (ofText t) =
      (firstOccurrence? part t).map fun n => (ofText (t.take n)).length := by
  induction t with
  | nil => cases part <;> rfl
  | cons c t ih =>
    by_cases hstart : part <+: c :: t
    · rw [firstOccurrence?_eq_zero hstart,
        firstOccurrence?_eq_zero ((prefix_ofText_iff hpart).mpr hstart)]
      rfl
    have hstart' := mt (prefix_ofText_iff hpart).mp hstart
    rw [firstOccurrence?_cons_of_not_start hstart]
    rcases Nat.lt_or_ge c.toNat 128 with hlt | hge
    · rw [ofText_cons, ofChar_of_lt hlt, List.singleton_append] at hstart' ⊢
      rw [firstOccurrence?_cons_of_not_start hstart', ih, Option.map_map, Option.map_map]
      refine congrArg (Option.map · _) (funext fun n => ?_)
      simp [ofText_cons, ofChar_of_lt hlt]
    · -- None of the bytes of the first character is in the part.
      obtain ⟨-, -, -, -, hforeign⟩ := ofChar_of_le hge
      have hempty : part ≠ [] := by
        rintro rfl
        exact hstart List.nil_prefix
      have hapart : ∀ x ∈ ofChar c, x ∉ part := fun x hx => hpart.notMem (hforeign x hx)
      rw [ofText_cons, firstOccurrence?_append_left hempty hapart, ih, Option.map_map,
        Option.map_map]
      refine congrArg (Option.map · _) (funext fun n => ?_)
      simp [ofText_cons, Nat.add_comm]

theorem occursIn_ofText (hpart : IsAscii part) (t : Text) :
    occursIn part (ofText t) = occursIn part t := by
  rw [occursIn, firstOccurrence?_ofText hpart, Option.isSome_map, occursIn]

theorem endsAtFirst_ofText (hpart : IsAscii part) (h : EndsAtFirst part t) :
    EndsAtFirst part (ofText t) := by
  obtain ⟨n, hn, hend⟩ := h
  refine ⟨_, by rw [firstOccurrence?_ofText hpart, hn]; rfl, ?_⟩
  obtain ⟨hat, -⟩ := firstOccurrence?_eq_some_iff.mp hn
  have hdrop : t.drop n = part := (hat.eq_of_length (by rw [List.length_drop]; omega)).symm
  conv_rhs =>
    rw [← List.take_append_drop n t, ofText_append, hdrop, ofText_of_ascii hpart,
      List.length_append]

/-- To turn one ASCII character into another is the same among the bytes. -/
theorem swap_ofText {a b : Char} (ha : a.toNat < 128) (hb : b.toNat < 128) (t : Text) :
    (ofText t).swap a b = ofText (t.swap a b) := by
  simp only [Text.swap, ofText_eq_flatMap, List.map_flatMap, List.flatMap_map]
  refine List.flatMap_congr fun c _ => ?_
  rcases Nat.lt_or_ge c.toNat 128 with hlt | hge
  · have hswap : (if c = a then b else c).toNat < 128 := by split <;> assumption
    rw [ofChar_of_lt hlt, ofChar_of_lt hswap, List.map_singleton]
  · obtain ⟨-, -, -, -, hforeign⟩ := ofChar_of_le hge
    have hne : ∀ {x : Char}, 128 ≤ x.toNat → x ≠ a := fun hx heq => by
      rw [heq] at hx
      omega
    rw [if_neg (hne hge)]
    exact (List.map_congr_left fun x hx => if_neg (hne (hforeign x hx))).trans (List.map_id _)

/-! ### Lines -/

/-- The bytes of a text have the lines of the text. -/
theorem pieces_ofText (t : Text) : Text.pieces (ofText t) = (Text.pieces t).map ofText := by
  have hnewline : ∀ {line : Text}, '\n' ∉ line → '\n' ∉ ofText line :=
    mt (mem_ofText_of_lt (by decide)).mp
  induction t using Text.line_induction with
  | nil => rfl
  | last line hempty hline =>
    rw [Text.pieces_line hempty hline,
      Text.pieces_line (mt ofText_eq_nil_iff.mp hempty) (hnewline hline), List.map_singleton]
  | line line rest hline ih =>
    rw [ofText_append, ofText_cons, ofChar_of_lt (by decide), List.singleton_append,
      Text.pieces_append (hnewline hline), ih, Text.pieces_append hline, List.map_cons,
      ofText_append, ofText_of_ascii (by decide : IsAscii ['\n'])]

end Latin1

theorem Utf8.encode_eq_nil_iff {t : Text} : encode t = [] ↔ t = [] := by
  rw [← Latin1.ofText_eq_nil_iff, Latin1.ofText, Latin1.decode, List.map_eq_nil_iff]

/-- The bytes of a text end with an ASCII part where the text does. -/
theorem Utf8.endsAtFirst_encode {part t : Text} (hpart : IsAscii part) (h : EndsAtFirst part t) :
    EndsAtFirst (encode part) (encode t) := by
  obtain ⟨n, hn, hend⟩ := Latin1.endsAtFirst_ofText hpart h
  rw [← Latin1.decode_encode hpart, Latin1.ofText, Latin1.decode, Latin1.decode,
    firstOccurrence?_map Latin1.char_injective] at hn
  rw [Latin1.ofText, Latin1.decode, List.length_map] at hend
  exact ⟨n, hn, by rw [length_encode hpart, hend]⟩

end TemplateMap
