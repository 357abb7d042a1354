import TemplateMap.Proofs.Text.Latin1

/-! Trimmed texts byte by byte.  With one character for each of its bytes, a trimmed text can lose
bytes of its last character, which then look like white space, and nothing else.  So no ASCII text
comes out of one that is not ASCII, and ASCII parts stand where they stood. -/

namespace TemplateMap.Text

variable {t part : Text} {a b : Char}

/-- What a text reads as with one character for each of its bytes, white space at the ends apart. -/
def bytewise (t : Text) : Text := (Latin1.ofText t).trim

theorem isTrimmed_bytewise (t : Text) : IsTrimmed t.bytewise := isTrimmed_trim _

theorem trimStart_ofText (h : IsTrimmed t) : (Latin1.ofText t).trimStart = Latin1.ofText t := by
  cases t with
  | nil => rfl
  | cons c t =>
    obtain ⟨lead, others, hbytes, hlead⟩ :
        ∃ lead others, Latin1.ofChar c = lead :: others ∧ isBlank lead = false := by
      rcases Nat.lt_or_ge c.toNat 128 with hlt | hge
      · exact ⟨c, [], Latin1.ofChar_of_lt hlt, h.head c rfl⟩
      · obtain ⟨lead, others, hbytes, hlead, -⟩ := Latin1.ofChar_of_le hge
        exact ⟨lead, others, hbytes, hlead⟩
    rw [Latin1.ofText_cons, hbytes]
    exact List.dropWhile_cons_of_neg (by simp [hlead])

/-- What is lost are the last bytes of a last character that is not ASCII. -/
theorem exists_bytewise_append (h : IsTrimmed t) :
    ∃ tail, Latin1.ofText t = t.bytewise ++ tail ∧
      (∀ c ∈ tail, isBlank c = true ∧ 128 ≤ c.toNat) ∧
      (tail ≠ [] → ∀ c ∈ t.bytewise.getLast?, 128 ≤ c.toNat) := by
  rw [bytewise, trim, trimStart_ofText h]
  rcases List.eq_nil_or_concat t with rfl | ⟨before, c, rfl⟩
  · exact ⟨[], rfl, List.forall_mem_nil _, absurd rfl⟩
  rw [List.concat_eq_append] at h ⊢
  rw [Latin1.ofText_append, Latin1.ofText_cons, Latin1.ofText_nil, List.append_nil]
  rcases Nat.lt_or_ge c.toNat 128 with hlt | hge
  · have hc : isBlank c = false := h.last c (by simp)
    refine ⟨[], ?_, List.forall_mem_nil _, absurd rfl⟩
    rw [Latin1.ofChar_of_lt hlt, trimEnd_append_cons hc, List.append_nil]
    rfl
  obtain ⟨lead, others, hbytes, hlead, hforeign⟩ := Latin1.ofChar_of_le hge
  rw [hbytes] at hforeign ⊢
  rw [trimEnd_append_cons hlead]
  have hsplit : trimEnd others ++ others.rtakeWhile isBlank = others :=
    List.rdropWhile_append_rtakeWhile
  have hlost : ∀ x ∈ others.rtakeWhile isBlank, 128 ≤ x.toNat := fun x hx =>
    hforeign x (List.mem_cons_of_mem lead ((List.rtakeWhile_suffix _ _).mem hx))
  have hleft : ∀ x ∈ lead :: trimEnd others, 128 ≤ x.toNat := fun x hx =>
    hforeign x (List.cons_subset_cons lead (List.rdropWhile_prefix _ _).subset hx)
  refine ⟨others.rtakeWhile isBlank, ?_, fun x hx => ⟨List.mem_rtakeWhile_imp hx, hlost x hx⟩,
    fun _ x hx => hleft x ?_⟩
  · rw [List.append_assoc, List.cons_append, hsplit]
  · rw [List.getLast?_append, List.getLast?_cons, Option.some_or, ← List.getLast?_cons] at hx
    exact List.mem_of_getLast? hx

theorem bytewise_of_ascii (h : IsTrimmed t) (hascii : IsAscii t) : t.bytewise = t := by
  rw [bytewise, Latin1.ofText_of_ascii hascii, h.trim_eq]

/-- A character that is not ASCII leaves one, for its first byte is never lost. -/
theorem ascii_of_bytewise (h : IsTrimmed t) (hascii : IsAscii t.bytewise) : IsAscii t := by
  intro c hc
  by_contra hforeign
  obtain ⟨lead, others, hbytes, hlead, hge⟩ := Latin1.ofChar_of_le (Nat.le_of_not_lt hforeign)
  have hmem : lead ∈ Latin1.ofText t := by
    rw [Latin1.ofText_eq_flatMap]
    exact List.mem_flatMap.mpr ⟨c, hc, hbytes ▸ List.mem_cons_self⟩
  obtain ⟨tail, hsplit, htail, -⟩ := exists_bytewise_append h
  rw [hsplit] at hmem
  rcases List.mem_append.mp hmem with hmem | hmem
  · exact hascii.notMem (hge lead (hbytes ▸ List.mem_cons_self)) hmem
  · exact Bool.false_ne_true (hlead.symm.trans (htail lead hmem).1)

/-- An ASCII text comes from itself alone. -/
theorem bytewise_eq_iff (h : IsTrimmed t) (hpart : IsAscii part) :
    t.bytewise = part ↔ t = part := by
  constructor
  · rintro rfl
    exact (bytewise_of_ascii h (ascii_of_bytewise h hpart)).symm
  · rintro rfl
    exact bytewise_of_ascii h hpart

theorem bytewise_eq_nil_iff (h : IsTrimmed t) : t.bytewise = [] ↔ t = [] := bytewise_eq_iff h nofun

/-- All white space in the text is ASCII. -/
def BlankAscii (t : Text) : Prop := ∀ c ∈ t, isBlank c = true → c.toNat < 128

instance : DecidablePred BlankAscii := fun t =>
  decidable_of_iff (t.all fun c => !isBlank c || c.toNat < 128)
    (by simp [BlankAscii, imp_iff_not_or])

/-- All that trimming takes off is ASCII. -/
def TrimsAscii (t : Text) : Prop :=
  IsAscii (t.takeWhile isBlank) ∧ IsAscii (t.trimStart.rtakeWhile isBlank)

instance : DecidablePred TrimsAscii := fun t =>
  inferInstanceAs (Decidable (IsAscii (t.takeWhile isBlank) ∧
    IsAscii (t.trimStart.rtakeWhile isBlank)))

theorem BlankAscii.trimsAscii (h : BlankAscii t) : TrimsAscii t := by
  have hsplit := takeWhile_append_trim_append t
  refine ⟨fun c hc => h c ?_ (List.mem_takeWhile_imp hc),
    fun c hc => h c ?_ (List.mem_rtakeWhile_imp hc)⟩
  · exact hsplit ▸ List.mem_append_left _ (List.mem_append_left _ hc)
  · exact hsplit ▸ List.mem_append_right _ hc

/-- ASCII white space is taken off the bytes as it is off the text. -/
theorem TrimsAscii.trim_ofText (h : TrimsAscii t) : (Latin1.ofText t).trim = t.trim.bytewise := by
  conv_lhs =>
    rw [← takeWhile_append_trim_append t, Latin1.ofText_append, Latin1.ofText_append,
      Latin1.ofText_of_ascii h.1, Latin1.ofText_of_ascii h.2,
      trim_append_right fun _ => List.mem_rtakeWhile_imp,
      trim_append_left fun _ => List.mem_takeWhile_imp]
  rfl

/-- The lines of the bytes are those of the text, each read byte by byte. -/
theorem trim_pieces_ofText (h : ∀ line ∈ t.lines, TrimsAscii line) :
    (pieces (Latin1.ofText t)).map trim = (t.lines.map trim).map bytewise := by
  rw [Latin1.pieces_ofText, lines, List.map_map, List.map_map, List.map_map]
  refine List.map_congr_left fun piece hpiece => ?_
  obtain ⟨ending, hsplit, hending⟩ := exists_dropLineEnd_append piece
  have hascii : IsAscii ending := fun c hc => by
    rcases hending c hc with rfl | rfl <;> decide
  have hblank : ∀ c ∈ ending, isBlank c = true := fun c hc => by
    rcases hending c hc with rfl | rfl <;> rfl
  have htrims : TrimsAscii (dropLineEnd piece) := h _ (List.mem_map_of_mem hpiece)
  simp only [Function.comp_apply]
  conv_lhs =>
    rw [← hsplit, Latin1.ofText_append, Latin1.ofText_of_ascii hascii, trim_append_right hblank,
      htrims.trim_ofText]

/-! ### ASCII parts -/

theorem prefix_bytewise_iff (h : IsTrimmed t) (hpart : IsAscii part) :
    part <+: t.bytewise ↔ part <+: t := by
  obtain ⟨tail, hsplit, htail, -⟩ := exists_bytewise_append h
  rw [← Latin1.prefix_ofText_iff hpart (t := t), hsplit]
  cases tail with
  | nil => rw [List.append_nil]
  | cons c tail =>
    rw [prefix_append_cons_iff (hpart.notMem (htail c List.mem_cons_self).2)]

theorem suffix_bytewise_iff (h : IsTrimmed t) (hpart : IsAscii part) (hempty : part ≠ []) :
    part <:+ t.bytewise ↔ part <:+ t := by
  obtain ⟨tail, hsplit, htail, hlast⟩ := exists_bytewise_append h
  rw [← Latin1.suffix_ofText_iff hpart (t := t), hsplit]
  rcases List.eq_nil_or_concat tail with rfl | ⟨before, c, rfl⟩
  · rw [List.append_nil]
  -- Both texts end in a character that is not ASCII.
  have hnot : ∀ {whole : Text}, (∀ x ∈ whole.getLast?, 128 ≤ x.toNat) → ¬ part <:+ whole := by
    intro whole hwhole hsuffix
    have hpartLast := hpart _ (List.getLast_mem hempty)
    obtain ⟨before, rfl⟩ := hsuffix
    have := hwhole (part.getLast hempty) (by
      rw [List.getLast?_append, List.getLast?_eq_some_getLast hempty]
      rfl)
    omega
  refine iff_of_false (hnot (hlast (by simp))) (hnot fun x hx => ?_)
  obtain rfl : c = x := by simpa [← List.append_assoc] using hx
  exact (htail c (by simp)).2

theorem occursIn_bytewise (h : IsTrimmed t) (hpart : IsAscii part) (hempty : part ≠ []) :
    occursIn part t.bytewise = occursIn part t := by
  obtain ⟨tail, hsplit, htail, -⟩ := exists_bytewise_append h
  have hapart : ∀ c ∈ tail, c ∉ part := fun c hc => hpart.notMem (htail c hc).2
  rw [← Latin1.occursIn_ofText hpart t, hsplit, occursIn_append_right hempty hapart]

theorem swap_bytewise (ha : a.toNat < 128) (hb : b.toNat < 128) (hblank : isBlank a = isBlank b)
    (t : Text) : t.bytewise.swap a b = (t.swap a b).bytewise := by
  rw [bytewise, ← trim_swap hblank, Latin1.swap_ofText ha hb, bytewise]

end TemplateMap.Text
