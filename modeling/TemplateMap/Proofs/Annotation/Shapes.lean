import TemplateMap.Proofs.Annotation.Parts
import TemplateMap.Proofs.Stratum.Grammar

/-! The named shapes of annotations.  A line that begins with one of them is read as it is written,
whatever its white space, the letter case of its words and the text behind it: no other shape takes
its place, and the file that it names alone decides whether it counts. -/

namespace TemplateMap.Annotation

variable {t rest run word label file digits line : Text}

/-! ### The shapes -/

/-- The start of a named shape: the opening of the comment, the word `line` in any letter case, and
decimal digits, with any white space before and between them. -/
inductive IsHead (opening digits : Text) : Text → Prop
  | intro {indent gap word space : Text} (hindent : IsGap indent) (hgap : IsGap gap)
    (hword : word.asciiLower = ['l', 'i', 'n', 'e']) (hspace : IsGap space)
    (space_ne : space ≠ []) (digits_ne : digits ≠ [])
    (hdigits : ∀ c ∈ digits, isDecimalDigit c = true) :
    IsHead opening digits (indent ++ (opening ++ (gap ++ (word ++ (space ++ digits)))))

/-- A line that begins with a named shape, with the digits and the file in it.  In a block comment
the file goes up to the first end of the comment behind its first character. -/
inductive IsNamed (digits file : Text) : Text → Prop
  | quoted {head gap tail : Text} (hhead : IsHead lineComment digits head) (hgap : IsGap gap)
    (gap_ne : gap ≠ []) (hfile : '"' ∉ file) :
    IsNamed digits file (head ++ (gap ++ '"' :: (file ++ '"' :: tail)))
  | labelled {head gap qualifier label space tail : Text} (hhead : IsHead lineComment digits head)
    (hgap : IsGap gap) (hqualifier : IsQualifier qualifier)
    (hlabel : label.asciiLower = ['f', 'i', 'l', 'e', ':']) (hspace : IsGap space)
    (file_ne : file ≠ []) (hfile : ∀ c ∈ file, isBlank c = false)
    (htail : ∀ c ∈ tail.head?, isBlank c = true) :
    IsNamed digits file
      (head ++ ',' :: (gap ++ (qualifier ++ (label ++ (space ++ (file ++ tail))))))
  | block {head gap label space finish tail : Text} (hhead : IsHead ['/', '*'] digits head)
    (hgap : IsGap gap) (hlabel : label.asciiLower = ['f', 'i', 'l', 'e', ':'])
    (hspace : IsGap space) (file_ne : file ≠ []) (hfile : ∀ c ∈ file, isBlank c = false)
    (hclose : ¬ ['*', '/'] <:+: file.tail) (hfinish : IsGap finish) :
    IsNamed digits file
      (head ++ ',' :: (gap ++ (label ++ (space ++ (file ++ (finish ++ '*' :: '/' :: tail))))))

/-! ### The start of a shape -/

theorem IsHead.lineNumber?_append {opening head : Text} (h : IsHead opening digits head)
    (opening_ne : opening ≠ []) (hopening : ∀ c ∈ opening, isBlank c = false)
    (hrest : ∀ c ∈ rest.head?, isDecimalDigit c = false) :
    lineNumber? opening (head ++ rest) = some (digits, rest) := by
  obtain ⟨hindent, hgap, hword, hspace, space_ne, digits_ne, hdigits⟩ := h
  have word_ne : _ ≠ [] := ne_nil_of_asciiLower_eq hword (by decide)
  have hword_blank := isBlank_of_asciiLower_eq hword (by simp [isBlank])
  have hdigits_blank : ∀ c ∈ digits, isBlank c = false := fun c hc =>
    isBlank_of_isDecimalDigit (hdigits c hc)
  simp only [lineNumber?, List.append_assoc, Option.bind_eq_bind]
  rw [Text.trimStart_append_run hindent (head_append opening_ne hopening), after?_append,
    Option.bind_some, Text.trimStart_append_run hgap (head_append word_ne hword_blank),
    afterWord?_append hword, Option.bind_some,
    afterBlanks?_append hspace space_ne (head_append digits_ne hdigits_blank), Option.bind_some,
    digits?_append hdigits digits_ne hrest]

theorem exists_of_lineNumber? {opening : Text}
    (h : lineNumber? opening line = some (digits, rest)) :
    ∃ head, IsHead opening digits head ∧ line = head ++ rest := by
  simp only [lineNumber?, Option.bind_eq_bind, Option.bind_eq_some_iff] at h
  obtain ⟨t₁, hopening, t₂, hword, t₃, hblanks, hdigits⟩ := h
  obtain ⟨indent, hline, hindent, -⟩ := Text.exists_append_trimStart line
  obtain ⟨gap, ht₁, hgap, -⟩ := Text.exists_append_trimStart t₁
  obtain ⟨word, hlower, ht₂⟩ := exists_of_afterWord? hword
  obtain ⟨space, hspace, space_ne, rfl⟩ := exists_of_afterBlanks? hblanks
  obtain ⟨rfl, digits_ne, hdigits⟩ := of_digits? hdigits
  refine ⟨_, .intro hindent hgap hlower hspace space_ne digits_ne hdigits, ?_⟩
  rw [hline, eq_append_of_after? hopening, ht₁, ht₂]
  simp

/-- A line comment does not open like a block comment. -/
theorem IsHead.lineNumber?_eq_none {head : Text} (h : IsHead ['/', '*'] digits head) :
    lineNumber? lineComment (head ++ rest) = none := by
  obtain ⟨hindent⟩ := h
  simp only [lineNumber?, List.append_assoc, Option.bind_eq_bind]
  rw [Text.trimStart_append_run hindent (head_append (by decide) (by simp [isBlank]))]
  rfl

/-! ### Lines of a named shape -/

variable {head gap space tail : Text}

theorem IsHead.quotedMarker?_append (hhead : IsHead lineComment digits head) (hgap : IsGap gap)
    (gap_ne : gap ≠ []) (hfile : '"' ∉ file) :
    quotedMarker? (head ++ (gap ++ '"' :: (file ++ '"' :: tail))) = some ⟨digits, file⟩ := by
  have hnumber : lineNumber? lineComment (head ++ (gap ++ '"' :: (file ++ '"' :: tail))) =
      some (digits, gap ++ '"' :: (file ++ '"' :: tail)) :=
    hhead.lineNumber?_append (by decide) (by simp [isBlank, lineComment])
      (head_append gap_ne fun c hc => isDecimalDigit_of_isBlank (hgap c hc))
  have hquote : after? ['"'] ('"' :: (file ++ '"' :: tail)) = some (file ++ '"' :: tail) :=
    after?_append ['"'] _
  have hspan : (file ++ '"' :: tail).span (· ≠ '"') = (file, '"' :: tail) :=
    Text.span_append_run (fun c hc => by simpa using ne_of_mem_of_not_mem hc hfile) (by simp)
  rw [quotedMarker?, hnumber]
  simp only [Option.bind_eq_bind, Option.bind_some]
  rw [afterBlanks?_append hgap gap_ne (by rintro _ ⟨⟩; decide), Option.bind_some, hquote,
    Option.bind_some, hspan]
  rfl

theorem IsHead.lineNumber?_comma {opening : Text} (hhead : IsHead opening digits head)
    (opening_ne : opening ≠ []) (hopening : ∀ c ∈ opening, isBlank c = false) (rest : Text) :
    lineNumber? opening (head ++ ',' :: rest) = some (digits, ',' :: rest) :=
  hhead.lineNumber?_append opening_ne hopening (by rintro _ ⟨⟩; decide)

/-- A comma behind the digits is no white space. -/
theorem IsHead.quotedMarker?_comma (hhead : IsHead lineComment digits head) (rest : Text) :
    quotedMarker? (head ++ ',' :: rest) = none := by
  rw [quotedMarker?, hhead.lineNumber?_comma (by decide) (by simp [isBlank, lineComment])]
  rfl

theorem IsHead.labelledMarker?_append {qualifier : Text} (hhead : IsHead lineComment digits head)
    (hgap : IsGap gap) (hqualifier : IsQualifier qualifier)
    (hlabel : label.asciiLower = ['f', 'i', 'l', 'e', ':']) (hspace : IsGap space)
    (file_ne : file ≠ []) (hfile : ∀ c ∈ file, isBlank c = false)
    (htail : ∀ c ∈ tail.head?, isBlank c = true) :
    labelledMarker?
        (head ++ ',' :: (gap ++ (qualifier ++ (label ++ (space ++ (file ++ tail)))))) =
      some ⟨digits, file⟩ := by
  have hlabel_blank := isBlank_of_asciiLower_eq hlabel (by simp [isBlank])
  have label_ne := ne_nil_of_asciiLower_eq hlabel (by decide)
  have hstart : ∀ c ∈ (qualifier ++ (label ++ (space ++ (file ++ tail)))).head?,
      isBlank c = false := by
    cases hqualifier with
    | absent => exact head_append label_ne hlabel_blank
    | given word_ne hword =>
      rw [List.append_assoc]
      exact head_append word_ne fun c hc => isBlank_of_isWordChar (hword c hc)
  have hrun : (file ++ tail).takeWhile (fun c => !isBlank c) = file :=
    Text.takeWhile_append_run (fun c hc => by simp [hfile c hc]) fun c hc => by simp [htail c hc]
  have hcomma : ∀ t, after? [','] (',' :: t) = some t := after?_append [',']
  rw [labelledMarker?, hhead.lineNumber?_comma (by decide) (by simp [isBlank, lineComment])]
  simp only [Option.bind_eq_bind, Option.bind_some]
  rw [hcomma, Option.bind_some, Text.trimStart_append_run hgap hstart,
    hqualifier.dropQualifier_append hlabel,
    afterFileLabel?_append hlabel hspace (head_append file_ne hfile), Option.bind_some, hrun]
  simp [file_ne]

theorem IsHead.blockMarker?_append {finish : Text} (hhead : IsHead ['/', '*'] digits head)
    (hgap : IsGap gap) (hlabel : label.asciiLower = ['f', 'i', 'l', 'e', ':'])
    (hspace : IsGap space) (file_ne : file ≠ []) (hfile : ∀ c ∈ file, isBlank c = false)
    (hclose : ¬ ['*', '/'] <:+: file.tail) (hfinish : IsGap finish) :
    blockMarker?
        (head ++ ',' :: (gap ++ (label ++ (space ++ (file ++ (finish ++ '*' :: '/' :: tail)))))) =
      some ⟨digits, file⟩ := by
  have hlabel_blank := isBlank_of_asciiLower_eq hlabel (by simp [isBlank])
  have label_ne := ne_nil_of_asciiLower_eq hlabel (by decide)
  have hcomma : ∀ t, after? [','] (',' :: t) = some t := after?_append [',']
  rw [blockMarker?, hhead.lineNumber?_comma (by decide) (by simp [isBlank])]
  simp only [Option.bind_eq_bind, Option.bind_some]
  rw [hcomma, Option.bind_some, Text.trimStart_append_run hgap (head_append label_ne hlabel_blank),
    afterFileLabel?_append hlabel hspace (head_append file_ne hfile), Option.bind_some,
    untilClose?_append file_ne hfile hclose hfinish]
  rfl

theorem isNamed_of_quotedMarker? (h : quotedMarker? line = some ⟨digits, file⟩) :
    IsNamed digits file line := by
  simp only [quotedMarker?, Option.bind_eq_bind, Option.bind_eq_some_iff] at h
  obtain ⟨⟨number, t₁⟩, hnumber, t₂, hblanks, t₃, hquote, h⟩ := h
  obtain ⟨head, hhead, rfl⟩ := exists_of_lineNumber? hnumber
  obtain ⟨gap, hgap, gap_ne, rfl⟩ := exists_of_afterBlanks? hblanks
  obtain rfl := eq_append_of_after? hquote
  cases hspan : t₃.span (· ≠ '"') with
  | mk run more =>
    obtain ⟨rfl, hrun, hmore⟩ := Text.of_span_eq hspan
    simp only [hspan] at h
    cases more with
    | nil => cases h
    | cons c tail =>
      obtain rfl : c = '"' := by simpa using hmore c rfl
      obtain ⟨rfl, rfl⟩ := Marker.mk.inj (Option.some.inj h)
      have hfile : '"' ∉ run := fun hmem => by simpa using hrun '"' hmem
      exact .quoted hhead hgap gap_ne hfile

theorem isNamed_of_labelledMarker? (h : labelledMarker? line = some ⟨digits, file⟩) :
    IsNamed digits file line := by
  simp only [labelledMarker?, Option.bind_eq_bind, Option.bind_eq_some_iff] at h
  obtain ⟨⟨number, t₁⟩, hnumber, t₂, hcomma, t₃, hlabel, h⟩ := h
  obtain ⟨head, hhead, rfl⟩ := exists_of_lineNumber? hnumber
  obtain rfl := eq_append_of_after? hcomma
  obtain ⟨gap, ht₂, hgap, -⟩ := Text.exists_append_trimStart t₂
  obtain ⟨qualifier, hqualifier, hrest⟩ := exists_append_dropQualifier t₂.trimStart
  obtain ⟨label, space, hlower, hspace, hfile⟩ := exists_of_afterFileLabel? hlabel
  cases hspan : t₃.span (fun c => !isBlank c) with
  | mk run tail =>
    obtain ⟨rfl, hrun, htail⟩ := Text.of_span_eq hspan
    simp only [Text.takeWhile_append_run hrun htail] at h
    split at h
    next => cases h
    next hne =>
      obtain ⟨rfl, rfl⟩ := Marker.mk.inj (Option.some.inj h)
      rw [ht₂, hrest, hfile]
      exact .labelled hhead hgap hqualifier hlower hspace (mt List.isEmpty_iff.mpr hne)
        (fun c hc => by simpa using hrun c hc) fun c hc => by simpa using htail c hc

theorem isNamed_of_blockMarker? (h : blockMarker? line = some ⟨digits, file⟩) :
    IsNamed digits file line := by
  simp only [blockMarker?, Option.bind_eq_bind, Option.bind_eq_some_iff] at h
  obtain ⟨⟨number, t₁⟩, hnumber, t₂, hcomma, t₃, hlabel, f, hclose, h⟩ := h
  obtain ⟨rfl, rfl⟩ := Marker.mk.inj (Option.some.inj h)
  obtain ⟨head, hhead, rfl⟩ := exists_of_lineNumber? hnumber
  obtain rfl := eq_append_of_after? hcomma
  obtain ⟨gap, ht₂, hgap, -⟩ := Text.exists_append_trimStart t₂
  obtain ⟨label, space, hlower, hspace, hfile⟩ := exists_of_afterFileLabel? hlabel
  obtain ⟨file_ne, hblank, hinner, finish, tail, hfinish, rfl⟩ := of_untilClose? hclose
  rw [ht₂, hfile]
  exact .block hhead hgap hlower hspace file_ne hblank hinner hfinish

/-- Of the three named shapes a line has none before the one that it begins with. -/
theorem IsNamed.marker (h : IsNamed digits file line) :
    ((quotedMarker? line).or (labelledMarker? line)).or (blockMarker? line) =
      some ⟨digits, file⟩ := by
  cases h with
  | quoted hhead hgap gap_ne hfile =>
    rw [hhead.quotedMarker?_append hgap gap_ne hfile]
    rfl
  | labelled hhead hgap hqualifier hlabel hspace file_ne hfile htail =>
    rw [hhead.quotedMarker?_comma,
      hhead.labelledMarker?_append hgap hqualifier hlabel hspace file_ne hfile htail]
    rfl
  | @block head _ _ _ _ _ hhead hgap hlabel hspace file_ne hfile hclose hfinish =>
    have hquoted : ∀ rest, quotedMarker? (head ++ rest) = none := fun rest => by
      rw [quotedMarker?, hhead.lineNumber?_eq_none]
      rfl
    have hlabelled : ∀ rest, labelledMarker? (head ++ rest) = none := fun rest => by
      rw [labelledMarker?, hhead.lineNumber?_eq_none]
      rfl
    rw [hquoted, hlabelled,
      hhead.blockMarker?_append hgap hlabel hspace file_ne hfile hclose hfinish]
    rfl

/-- The lines with a marker are those that begin with a named shape. -/
theorem marker_eq_some_iff :
    ((quotedMarker? line).or (labelledMarker? line)).or (blockMarker? line) =
      some ⟨digits, file⟩ ↔ IsNamed digits file line := by
  refine ⟨fun h => ?_, IsNamed.marker⟩
  rcases Option.or_eq_some_iff.mp h with h | ⟨-, h⟩
  · rcases Option.or_eq_some_iff.mp h with h | ⟨-, h⟩
    · exact isNamed_of_quotedMarker? h
    · exact isNamed_of_labelledMarker? h
  · exact isNamed_of_blockMarker? h

/-- A line that begins with a named shape is an annotation exactly if its file names the template
and its digits are ASCII digits that write a number up to `lastLine`, and then of that number. -/
theorem IsNamed.ofLine?_eq_some_iff {n : Nat} (h : IsNamed digits file line) (template : Template) :
    ofLine? template line = some n ↔
      template.matchName file ≠ .none ∧ Stratum.IsNumber digits n := by
  unfold ofLine?
  rw [h.marker]
  simp only
  split
  next hforeign => simp [hforeign]
  next hown => simp only [lineOf?, hown, ne_eq, not_false_eq_true, true_and,
      ← Stratum.number?_eq_some_iff, Stratum.number?]

/-- A line that begins with no named shape is left to the loose one, and that counts only where the
line names the extension of the template. -/
theorem ofLine?_eq_some_iff_of_unnamed {n : Nat} (h : ∀ digits file, ¬ IsNamed digits file line)
    (template : Template) :
    ofLine? template line = some n ↔
      namesExtension template line = true ∧
        ∃ digits, looseMarker? line = some digits ∧ Stratum.IsNumber digits n := by
  have hmarker : ((quotedMarker? line).or (labelledMarker? line)).or (blockMarker? line) = none :=
    Option.eq_none_iff_forall_ne_some.mpr fun marker hsome =>
      h marker.number marker.file (marker_eq_some_iff.mp hsome)
  have hvalue : ∀ digits, lineOf? digits = some n ↔ Stratum.IsNumber digits n := fun digits => by
    rw [← Stratum.number?_eq_some_iff]
    rfl
  unfold ofLine?
  rw [hmarker]
  simp only
  split
  next hextension => simp [hextension, Option.bind_eq_some_iff, hvalue]
  next hextension => simp [hextension]

/-- A line of a named shape, with a loose one behind it. -/
def labelledLine : Text := "// Line 7, JSP file: /a.jsp // line 9 (a.jsp)".toList

theorem labelledLine_isNamed : IsNamed ['7'] "/a.jsp".toList labelledLine := by
  have hspace : IsGap [' '] := by decide
  have hword : Text.asciiLower "Line".toList = ['l', 'i', 'n', 'e'] := by decide
  have hhead : IsHead lineComment ['7'] "// Line 7".toList :=
    .intro (List.forall_mem_nil _) hspace hword hspace (by decide) (by decide)
      (List.all_eq_true.mp (by decide))
  have hqualifier : IsQualifier ("JSP".toList ++ [' ']) :=
    .given (by decide) (List.all_eq_true.mp (by decide)) (by decide) hspace
  have hlabel : Text.asciiLower "file:".toList = ['f', 'i', 'l', 'e', ':'] := by decide
  have htail : ∀ c ∈ (" // line 9 (a.jsp)".toList).head?, isBlank c = true := by
    rintro c ⟨⟩
    decide
  have hfile : ∀ c ∈ "/a.jsp".toList, isBlank c = false := by
    simp only [String.reduceToList, List.forall_mem_cons]
    exact ⟨rfl, rfl, rfl, rfl, rfl, rfl, List.forall_mem_nil _⟩
  exact .labelled hhead hspace hqualifier hlabel hspace (by decide) hfile htail

/-- A line of the loose shape. -/
def looseLine : Text := "// from line 5 of x.JSP".toList

theorem looseLine_unnamed (digits file : Text) : ¬ IsNamed digits file looseLine := by
  have hnone : ((quotedMarker? looseLine).or (labelledMarker? looseLine)).or
      (blockMarker? looseLine) = none := by decide +kernel
  exact fun h => nomatch hnone.symm.trans (marker_eq_some_iff.mpr h)

end TemplateMap.Annotation
