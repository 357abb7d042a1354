import TemplateMap.Blob
import TemplateMap.Proofs.Text.Indent

/-! The section of a dump: the lines below the first one that is the header, as far as they are
indented.  A dump that shows an indented text below its header has that text as its section. -/

namespace TemplateMap.Dump

variable {header head body below : Text} {above : List Text}

/-- Lines, each ended by a line feed. -/
def unlines (lines : List Text) : Text := lines.flatMap (· ++ ['\n'])

theorem pieces_unlines_append (h : ∀ line ∈ above, '\n' ∉ line) (rest : Text) :
    Text.pieces (unlines above ++ rest) = above.map (· ++ ['\n']) ++ Text.pieces rest := by
  induction above with
  | nil => rfl
  | cons line above ih =>
    obtain ⟨hline, habove⟩ := List.forall_mem_cons.mp h
    have hcut : unlines (line :: above) ++ rest = line ++ '\n' :: (unlines above ++ rest) := by
      simp [unlines]
    rw [hcut, Text.pieces_append hline, ih habove]
    rfl

theorem trim_append_newline (line : Text) : (line ++ ['\n']).trim = line.trim :=
  Text.trim_append_right (List.forall_mem_singleton.mpr rfl) line

/-- What stands in column zero is not indented. -/
theorem takeWhile_pieces_flush (h : ∀ c ∈ below.head?, isBlank c = false) :
    (Text.pieces below).takeWhile isIndented = [] := by
  cases below with
  | nil => rfl
  | cons c below =>
    obtain ⟨piece, rest, hpieces⟩ := Text.exists_pieces_cons c below
    rw [hpieces, List.takeWhile_cons_of_neg]
    simpa [isIndented] using h c rfl

/-- The section is what stands below the first header as far as it is indented. -/
theorem section?_append (habove : ∀ line ∈ above, '\n' ∉ line ∧ line.trim ≠ header)
    (hline : '\n' ∉ head) (hhead : head.trim = header)
    (hbody : ∀ piece ∈ Text.pieces body, isIndented piece = true)
    (hcut : Text.pieces (body ++ below) = Text.pieces body ++ Text.pieces below)
    (hbelow : ∀ c ∈ below.head?, isBlank c = false) :
    Dump.section? (unlines above ++ (head ++ '\n' :: (body ++ below))) header = some body := by
  have hskip : ∀ piece ∈ above.map (· ++ ['\n']), (Text.trim piece != header) = true := by
    intro piece hpiece
    obtain ⟨line, hmem, rfl⟩ := List.mem_map.mp hpiece
    simpa [trim_append_newline] using (habove line hmem).2
  rw [section?, pieces_unlines_append fun line hmem => (habove line hmem).1,
    List.dropWhile_append_of_pos hskip, Text.pieces_append hline, List.dropWhile_cons_of_neg]
  · simp only
    rw [hcut, List.takeWhile_append_of_pos hbody, takeWhile_pieces_flush hbelow, List.append_nil,
      Text.flatten_pieces]
  · simp [trim_append_newline, hhead]

/-- What a tool writes around a text: lines above the header that are not it, a margin for each line
of the text, and below it nothing or a line that is not indented. -/
structure Layout (header : Text) where
  above : List Text
  margin : Nat → Text
  below : Text
  above_lines : ∀ line ∈ above, '\n' ∉ line ∧ line.trim ≠ header
  margin_blank : ∀ n, IsMargin (margin n)
  margin_nonempty : ∀ n, margin n ≠ []
  below_flush : below = [] ∨ ∃ rest, below = '\n' :: rest ∧ ∀ c ∈ rest.head?, isBlank c = false

/-- The dump that shows a text below the header. -/
def Layout.shown (l : Layout header) (t : Text) : Text :=
  unlines l.above ++ (header ++ '\n' :: (Text.indented l.margin t ++ l.below))

theorem isIndented_margin {margin : Text} (h : IsMargin margin) (hempty : margin ≠ [])
    (rest : Text) : isIndented (margin ++ rest) = true := by
  obtain ⟨c, margin, rfl⟩ := List.exists_cons_of_ne_nil hempty
  exact h.blank c List.mem_cons_self

/-- Every piece of an indented text is indented, with or without a line feed at its end. -/
theorem isIndented_of_mem_pieces {margin : Nat → Text} {t tail : Text}
    (hmargin : ∀ n, IsMargin (margin n)) (hempty : ∀ n, margin n ≠ [])
    (htail : tail = [] ∨ tail = ['\n']) :
    ∀ piece ∈ Text.pieces (Text.indented margin t ++ tail), isIndented piece = true := by
  have hfirst := isIndented_margin (hmargin 0) (hempty 0)
  induction t using Text.line_induction generalizing margin with
  | nil => rcases htail with rfl | rfl <;> simp [Text.pieces, isIndented, isBlank]
  | last line hne hline =>
    have hnew : '\n' ∉ margin 0 ++ line := by simp [(hmargin 0).newline_notMem, hline]
    rw [Text.indented_line hne hline]
    rcases htail with rfl | rfl
    · rw [List.append_nil, Text.pieces_line (by simp [hne]) hnew]
      simpa using hfirst line
    · rw [Text.pieces_append hnew]
      simpa using hfirst (line ++ ['\n'])
  | line line rest hline ih =>
    have hnew : '\n' ∉ margin 0 ++ line := by simp [(hmargin 0).newline_notMem, hline]
    rw [Text.indented_append hline, List.append_assoc, List.cons_append, Text.pieces_append hnew,
      List.forall_mem_cons]
    refine ⟨by simpa using hfirst (line ++ ['\n']), ?_⟩
    exact ih (fun n => hmargin (n + 1)) (fun n => hempty (n + 1))
      (isIndented_margin (hmargin 1) (hempty 1))

/-- The section of the dump that shows a text is the indented text, up to a line feed. -/
theorem Layout.section?_shown (l : Layout header) (hline : '\n' ∉ header)
    (htrim : header.trim = header) (t : Text) :
    ∃ tail, (tail = [] ∨ tail = ['\n']) ∧
      Dump.section? (l.shown t) header = some (Text.indented l.margin t ++ tail) := by
  obtain ⟨tail, rest, hbelow, htail, hcut, hflush⟩ : ∃ tail rest, l.below = tail ++ rest ∧
      (tail = [] ∨ tail = ['\n']) ∧
      (∀ body,
        Text.pieces (body ++ tail ++ rest) = Text.pieces (body ++ tail) ++ Text.pieces rest) ∧
      ∀ c ∈ rest.head?, isBlank c = false := by
    rcases l.below_flush with hbelow | ⟨rest, hbelow, hflush⟩
    · exact ⟨[], [], hbelow, .inl rfl, by simp, nofun⟩
    · -- The line feed that ends the last line of the text belongs to the section.
      refine ⟨['\n'], rest, hbelow, .inr rfl, fun body => ?_, hflush⟩
      simpa using Text.pieces_append_newline body rest
  refine ⟨tail, htail, ?_⟩
  have hbody := isIndented_of_mem_pieces (t := t) l.margin_blank l.margin_nonempty htail
  rw [shown, hbelow, ← List.append_assoc (Text.indented l.margin t)]
  exact section?_append l.above_lines hline htrim hbody (hcut _) hflush

end TemplateMap.Dump
