import TemplateMap.Annotation
import TemplateMap.Proofs.Text.Runs

/-! The parts of annotations: for each reader of a part, the texts that it reads, with what it
leaves.  Between the parts stands white space, and words are read in any letter case. -/

namespace TemplateMap.Annotation

variable {t rest run word label file digits : Text}

/-- White space, or nothing. -/
def IsGap (t : Text) : Prop := ∀ c ∈ t, isBlank c = true

instance : DecidablePred IsGap := fun t => decidable_of_iff (t.all isBlank) List.all_eq_true

/-- A word with white space behind it, or nothing. -/
inductive IsQualifier : Text → Prop
  | absent : IsQualifier []
  | given {word space : Text} (word_ne : word ≠ []) (hword : ∀ c ∈ word, isWordChar c = true)
    (space_ne : space ≠ []) (hspace : IsGap space) : IsQualifier (word ++ space)

theorem isBlank_of_asciiLower_eq (h : run.asciiLower = word)
    (hword : ∀ c ∈ word, isBlank c = false) : ∀ c ∈ run, isBlank c = false := by
  intro c hc
  by_contra hblank
  have hmem : c.toLower ∈ word := h ▸ List.mem_map_of_mem hc
  rw [toLower_of_isBlank (by simpa using hblank)] at hmem
  exact hblank (hword c hmem)

theorem ne_nil_of_asciiLower_eq (h : run.asciiLower = word) (hne : word ≠ []) : run ≠ [] := by
  rintro rfl
  exact hne h.symm

theorem head_append (hne : run ≠ []) {p : Char → Prop} (h : ∀ c ∈ run, p c) :
    ∀ c ∈ (run ++ rest).head?, p c := by
  obtain ⟨c, run, rfl⟩ := List.exists_cons_of_ne_nil hne
  intro d hd
  obtain rfl := Option.some.inj hd
  exact h c List.mem_cons_self

theorem after?_append (lead rest : Text) : after? lead (lead ++ rest) = some rest := by
  simp [after?]

theorem eq_append_of_after? {lead : Text} (h : after? lead t = some rest) : t = lead ++ rest := by
  unfold after? at h
  split at h
  next hlead =>
    obtain ⟨more, rfl⟩ := List.isPrefixOf_iff_prefix.mp hlead
    rw [List.drop_left, Option.some.injEq] at h
    rw [h]
  next => cases h

theorem afterWord?_append (h : run.asciiLower = word) (rest : Text) :
    afterWord? word (run ++ rest) = some rest := by
  have hlength : word.length = run.length := by rw [← h, Text.asciiLower, List.length_map]
  simp [afterWord?, hlength, h]

theorem exists_of_afterWord? (h : afterWord? word t = some rest) :
    ∃ run, run.asciiLower = word ∧ t = run ++ rest := by
  unfold afterWord? at h
  split at h
  next hword =>
    refine ⟨t.take word.length, ?_, ?_⟩
    · have hstart := List.isPrefixOf_iff_prefix.mp hword
      refine (hstart.eq_of_length_le ?_).symm
      rw [Text.asciiLower, List.length_map]
      exact List.length_take_le _ _
    · rw [← Option.some.inj h, List.take_append_drop]
  next => cases h

theorem afterBlanks?_append (hrun : IsGap run) (hne : run ≠ [])
    (hrest : ∀ c ∈ rest.head?, isBlank c = false) : afterBlanks? (run ++ rest) = some rest := by
  obtain ⟨c, run, rfl⟩ := List.exists_cons_of_ne_nil hne
  have htrim := Text.trimStart_append_run hrun hrest
  rw [List.cons_append] at htrim ⊢
  rw [afterBlanks?, if_pos (hrun c List.mem_cons_self), htrim]

theorem exists_of_afterBlanks? (h : afterBlanks? t = some rest) :
    ∃ gap, IsGap gap ∧ gap ≠ [] ∧ t = gap ++ rest := by
  unfold afterBlanks? at h
  split at h
  next c more =>
    split at h
    next hc =>
      obtain ⟨gap, hsplit, hgap, hstart⟩ := Text.exists_append_trimStart (c :: more)
      rw [Option.some.inj h] at hsplit hstart
      refine ⟨gap, hgap, ?_, hsplit⟩
      rintro rfl
      rw [List.nil_append] at hsplit
      rw [← hsplit, List.head?_cons] at hstart
      exact absurd hc (by simp [hstart c rfl])
    next => cases h
  next => cases h

theorem digits?_append (hrun : ∀ c ∈ run, isDecimalDigit c = true) (hne : run ≠ [])
    (hrest : ∀ c ∈ rest.head?, isDecimalDigit c = false) :
    digits? (run ++ rest) = some (run, rest) := by
  rw [digits?, Text.span_append_run hrun hrest]
  simp [hne]

theorem of_digits? (h : digits? t = some (digits, rest)) :
    t = digits ++ rest ∧ digits ≠ [] ∧ ∀ c ∈ digits, isDecimalDigit c = true := by
  unfold digits? at h
  cases hspan : t.span isDecimalDigit with
  | mk run more =>
    obtain ⟨hsplit, hrun, -⟩ := Text.of_span_eq hspan
    simp only [hspan] at h
    split at h
    next => cases h
    next hne =>
      obtain ⟨rfl, rfl⟩ := Prod.mk.inj (Option.some.inj h)
      exact ⟨hsplit, by simpa using hne, hrun⟩

/-- The colon of a label ends the word that the label begins with. -/
theorem dropQualifier_label (h : label.asciiLower = ['f', 'i', 'l', 'e', ':']) (rest : Text) :
    dropQualifier (label ++ rest) = label ++ rest := by
  have hblank := isBlank_of_asciiLower_eq h (by simp [isBlank])
  have hcolon : ':' ∈ label := by
    have hmem : ':' ∈ label.asciiLower := by rw [h]; decide
    obtain ⟨c, hc, hlower⟩ := List.mem_map.mp hmem
    exact eq_of_toLower_eq hlower (by decide) ▸ hc
  have hstop : ¬ ∀ c ∈ label, isWordChar c = true := fun hall =>
    absurd (hall ':' hcolon) (by decide)
  -- What stands behind the word begins within the label.
  obtain ⟨c, more, hdrop⟩ := List.exists_cons_of_ne_nil (mt List.dropWhile_eq_nil_iff.mp hstop)
  have hc : isBlank c = false :=
    hblank c ((List.dropWhile_suffix isWordChar).subset (hdrop ▸ List.mem_cons_self))
  have hafter : afterBlanks? ((label ++ rest).dropWhile isWordChar) = none := by
    rw [List.dropWhile_append, hdrop]
    simp [afterBlanks?, hc]
  rw [dropQualifier, List.span_eq_takeWhile_dropWhile]
  simp only [hafter]
  cases ((label ++ rest).takeWhile isWordChar).isEmpty <;> rfl

theorem IsQualifier.dropQualifier_append {qualifier : Text} (h : IsQualifier qualifier)
    (hlabel : label.asciiLower = ['f', 'i', 'l', 'e', ':']) (rest : Text) :
    dropQualifier (qualifier ++ (label ++ rest)) = label ++ rest := by
  cases h with
  | absent => exact dropQualifier_label hlabel rest
  | @given word space word_ne hword space_ne hspace =>
    have hlabel_blank := isBlank_of_asciiLower_eq hlabel (by simp [isBlank])
    have label_ne := ne_nil_of_asciiLower_eq hlabel (by decide)
    have hspan : (word ++ (space ++ (label ++ rest))).span isWordChar =
        (word, space ++ (label ++ rest)) :=
      Text.span_append_run hword
        (head_append space_ne fun c hc => isWordChar_of_isBlank (hspace c hc))
    have hafter : afterBlanks? (space ++ (label ++ rest)) = some (label ++ rest) :=
      afterBlanks?_append hspace space_ne (head_append label_ne hlabel_blank)
    rw [dropQualifier, List.append_assoc, hspan]
    simp only [hafter, List.isEmpty_eq_false_iff.mpr word_ne]

theorem exists_append_dropQualifier (t : Text) :
    ∃ qualifier, IsQualifier qualifier ∧ t = qualifier ++ dropQualifier t := by
  unfold dropQualifier
  cases hspan : t.span isWordChar with
  | mk word more =>
    obtain ⟨hsplit, hword, -⟩ := Text.of_span_eq hspan
    simp only
    split
    next rest hempty hafter =>
      obtain ⟨space, hspace, space_ne, rfl⟩ := exists_of_afterBlanks? hafter
      have word_ne : word ≠ [] := List.isEmpty_eq_false_iff.mp hempty
      exact ⟨word ++ space, .given word_ne hword space_ne hspace, by rw [hsplit, List.append_assoc]⟩
    next => exact ⟨[], .absent, rfl⟩

theorem afterFileLabel?_append (h : label.asciiLower = ['f', 'i', 'l', 'e', ':'])
    (hrun : IsGap run) (hrest : ∀ c ∈ rest.head?, isBlank c = false) :
    afterFileLabel? (label ++ (run ++ rest)) = some rest := by
  rw [afterFileLabel?, afterWord?_append h, Option.map_some, Text.trimStart_append_run hrun hrest]

theorem exists_of_afterFileLabel? (h : afterFileLabel? t = some rest) :
    ∃ label space, label.asciiLower = ['f', 'i', 'l', 'e', ':'] ∧ IsGap space ∧
      t = label ++ (space ++ rest) := by
  obtain ⟨more, hmore, rfl⟩ := Option.map_eq_some_iff.mp h
  obtain ⟨label, hlabel, rfl⟩ := exists_of_afterWord? hmore
  obtain ⟨space, hsplit, hspace, -⟩ := Text.exists_append_trimStart more
  exact ⟨label, space, hlabel, hspace, by rw [← hsplit]⟩

/-- The end of a comment behind a file does not begin within it. -/
theorem not_prefix_close {finish : Text} (hclose : ¬ ['*', '/'] <:+: file) (file_ne : file ≠ [])
    (hfinish : IsGap finish) (tail : Text) :
    ¬ ['*', '/'] <+: file ++ (finish ++ '*' :: '/' :: tail) := by
  obtain ⟨c, more, rfl⟩ := List.exists_cons_of_ne_nil file_ne
  rw [List.cons_append, List.cons_prefix_cons]
  rintro ⟨rfl, hslash⟩
  cases more with
  | cons d more =>
    rw [List.cons_append, List.cons_prefix_cons] at hslash
    obtain ⟨rfl, -⟩ := hslash
    exact hclose ⟨[], more, rfl⟩
  | nil =>
    cases finish with
    | nil => simp at hslash
    | cons d finish =>
      rw [List.nil_append, List.cons_append, List.cons_prefix_cons] at hslash
      obtain ⟨rfl, -⟩ := hslash
      exact absurd (hfinish '/' List.mem_cons_self) (by decide)

theorem untilClose?_append {finish : Text} (file_ne : file ≠ [])
    (hfile : ∀ c ∈ file, isBlank c = false) (hclose : ¬ ['*', '/'] <:+: file.tail)
    (hfinish : IsGap finish) (tail : Text) :
    untilClose? (file ++ (finish ++ '*' :: '/' :: tail)) = some file := by
  induction file with
  | nil => exact absurd rfl file_ne
  | cons c file ih =>
    obtain ⟨hc, hfile⟩ := List.forall_mem_cons.mp hfile
    rw [List.cons_append, untilClose?, if_neg (by simp [hc])]
    by_cases hempty : file = []
    · subst hempty
      rw [List.nil_append, Text.trimStart_append_run hfinish (by rintro _ ⟨⟩; decide),
        if_pos (by simp)]
    · have hinner : ¬ ['*', '/'] <:+: file.tail := fun h =>
        hclose (h.trans (List.tail_suffix file).isInfix)
      have hkept : Text.trimStart (file ++ (finish ++ '*' :: '/' :: tail)) =
          file ++ (finish ++ '*' :: '/' :: tail) :=
        Text.trimStart_eq_self (head_append hempty hfile)
      have hopen := not_prefix_close hclose hempty hfinish tail
      rw [hkept, if_neg (by simpa using hopen), ih hempty hfile hinner]
      rfl

/-- A file is read up to the first end of the comment behind its first character. -/
theorem of_untilClose? (h : untilClose? t = some file) :
    file ≠ [] ∧ (∀ c ∈ file, isBlank c = false) ∧ ¬ ['*', '/'] <:+: file.tail ∧
      ∃ finish tail, IsGap finish ∧ t = file ++ (finish ++ '*' :: '/' :: tail) := by
  induction t generalizing file with
  | nil => cases h
  | cons c t ih =>
    rw [untilClose?] at h
    split at h
    next => cases h
    next hc =>
      obtain ⟨finish, hsplit, hfinish, -⟩ := Text.exists_append_trimStart t
      split at h
      next hclose =>
        obtain rfl := Option.some.inj h
        obtain ⟨tail, htail⟩ := List.isPrefixOf_iff_prefix.mp hclose
        rw [← htail] at hsplit
        exact ⟨List.cons_ne_nil _ _, by simpa using hc, by simp, finish, tail, hfinish,
          congrArg (c :: ·) hsplit⟩
      next hopen =>
        obtain ⟨more, hmore, rfl⟩ := Option.map_eq_some_iff.mp h
        obtain ⟨more_ne, hblank, hinner, finish, tail, hfinish, rfl⟩ := ih hmore
        refine ⟨List.cons_ne_nil _ _, List.forall_mem_cons.mpr ⟨by simpa using hc, hblank⟩, ?_,
          finish, tail, hfinish, rfl⟩
        rw [Text.trimStart_eq_self (head_append more_ne hblank)] at hopen
        obtain ⟨d, more, rfl⟩ := List.exists_cons_of_ne_nil more_ne
        rw [List.tail_cons, List.infix_cons_iff]
        rintro (hstart | hwithin)
        · exact hopen (List.isPrefixOf_iff_prefix.mpr (hstart.trans (List.prefix_append _ _)))
        · exact hinner hwithin

end TemplateMap.Annotation
