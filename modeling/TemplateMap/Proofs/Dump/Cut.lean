import TemplateMap.Proofs.Dump
import TemplateMap.Proofs.Text.Runs
import TemplateMap.Proofs.Word.Dump

/-! A dump cut at its section: what stands before the header, the header, the section, and the rest
from the next line in column zero on.  Where a line of the dump is the header there is exactly one
such cut and the section is its third part; where no line is, there is no section. -/

namespace TemplateMap

namespace Text

/-- One line, with the line feed that ends it or without one. -/
structure IsLine (t : Text) : Prop where
  nonempty : t ≠ []
  newline_notMem : '\n' ∉ t.dropLast

theorem isLine_append_newline {line : Text} (h : '\n' ∉ line) : IsLine (line ++ ['\n']) where
  nonempty := by simp
  newline_notMem := by rwa [List.dropLast_concat]

theorem isLine_of_notMem {line : Text} (hempty : line ≠ []) (h : '\n' ∉ line) : IsLine line where
  nonempty := hempty
  newline_notMem hmem := h (List.mem_of_mem_dropLast hmem)

theorem isLine_of_mem_pieces {t piece : Text} (h : piece ∈ t.pieces) : IsLine piece := by
  induction t using line_induction with
  | nil => cases h
  | last line hempty hline =>
    rw [pieces_line hempty hline, List.mem_singleton] at h
    exact h ▸ isLine_of_notMem hempty hline
  | line line rest hline ih =>
    rw [pieces_append hline, List.mem_cons] at h
    rcases h with rfl | h
    · exact isLine_append_newline hline
    · exact ih h

/-- A line is the first piece of a text if it is ended or the whole text. -/
theorem IsLine.pieces_append {head rest : Text} (h : IsLine head)
    (hwhole : rest ≠ [] → IsWhole head) : pieces (head ++ rest) = head :: pieces rest := by
  obtain ⟨line, c, rfl⟩ := (List.eq_nil_or_concat head).resolve_left h.nonempty
  rw [List.concat_eq_append] at h hwhole ⊢
  have hline : '\n' ∉ line := by simpa using h.newline_notMem
  by_cases hc : c = '\n'
  · subst hc
    rw [List.append_assoc]
    exact Text.pieces_append hline rest
  · -- A line that is not ended has nothing behind it.
    obtain rfl : rest = [] := by
      by_contra hrest
      exact hc (hwhole hrest c (by simp))
    have hnewline : '\n' ∉ line ++ [c] := by simp [hline, Ne.symm hc]
    rw [List.append_nil, pieces_line (by simp) hnewline, pieces_nil]

theorem isWhole_append {a b : Text} (ha : IsWhole a) (hb : IsWhole b) : IsWhole (a ++ b) := by
  intro c hc
  rw [List.getLast?_append, Option.mem_def, Option.or_eq_some_iff] at hc
  rcases hc with hc | ⟨-, hc⟩
  · exact hb c hc
  · exact ha c hc

/-- Where the pieces of a text are parted, the text is, between two lines. -/
theorem pieces_flatten_of_append {t : Text} {a b : List Text} (h : t.pieces = a ++ b) :
    pieces a.flatten = a ∧ pieces b.flatten = b ∧ (b ≠ [] → IsWhole a.flatten) := by
  induction t using line_induction generalizing a with
  | nil =>
    obtain ⟨rfl, rfl⟩ := List.append_eq_nil_iff.mp h.symm
    exact ⟨rfl, rfl, fun hempty => absurd rfl hempty⟩
  | last line hempty hline =>
    rw [pieces_line hempty hline] at h
    have hpieces : pieces [line].flatten = [line] := by simp [pieces_line hempty hline]
    rcases List.singleton_eq_append_iff.mp h with ⟨rfl, rfl⟩ | ⟨rfl, rfl⟩
    · exact ⟨rfl, hpieces, fun _ => nofun⟩
    · exact ⟨hpieces, rfl, fun hb => absurd rfl hb⟩
  | line line rest hline ih =>
    rw [pieces_append hline] at h
    cases a with
    | nil =>
      rw [List.nil_append] at h
      refine ⟨rfl, ?_, fun _ => nofun⟩
      rw [← h, ← pieces_append hline, flatten_pieces]
    | cons piece a =>
      obtain ⟨rfl, hrest⟩ := List.cons.inj h
      obtain ⟨ha, hb, hwhole⟩ := ih hrest
      refine ⟨?_, hb, fun hne => ?_⟩
      · rw [List.flatten_cons, List.append_assoc, List.singleton_append, pieces_append hline, ha]
      · exact isWhole_append (by simp [IsWhole]) (hwhole hne)

end Text

namespace Dump

/-- Four parts of a dump. -/
structure Cut where
  before : Text
  head : Text
  body : Text
  rest : Text

/-- The parts of a dump at its section: whole lines that are not the header, the first line that is,
the indented lines below it, and nothing or a line in column zero. -/
structure Cut.Separates (cut : Cut) (output header : Text) : Prop where
  split : cut.before ++ cut.head ++ cut.body ++ cut.rest = output
  before_whole : Text.IsWhole cut.before
  before_other : ∀ line ∈ cut.before.pieces, line.trim ≠ header
  head_line : Text.IsLine cut.head
  head_header : cut.head.trim = header
  head_whole : cut.body ++ cut.rest ≠ [] → Text.IsWhole cut.head
  body_indented : ∀ line ∈ cut.body.pieces, ∀ c ∈ line.head?, isBlank c = true
  body_whole : cut.rest ≠ [] → Text.IsWhole cut.body
  rest_flush : ∀ c ∈ cut.rest.head?, isBlank c = false

theorem isIndented_iff {line : Text} :
    isIndented line = true ↔ ∀ c ∈ line.head?, isBlank c = true := by
  cases line <;> simp [isIndented]

namespace Cut.Separates

variable {cut cut' : Cut} {output header : Text}

theorem pieces_eq (h : cut.Separates output header) :
    output.pieces = cut.before.pieces ++ cut.head :: (cut.body.pieces ++ cut.rest.pieces) := by
  have hbody : Text.pieces (cut.body ++ cut.rest) = cut.body.pieces ++ cut.rest.pieces := by
    by_cases hrest : cut.rest = []
    · simp [hrest]
    · exact Text.pieces_append_of_isWhole (h.body_whole hrest) cut.rest
  rw [← h.split, List.append_assoc, List.append_assoc,
    Text.pieces_append_of_isWhole h.before_whole, h.head_line.pieces_append h.head_whole, hbody]

theorem takeWhile_pieces (h : cut.Separates output header) :
    (output.pieces.takeWhile fun line => line.trim != header) = cut.before.pieces := by
  rw [h.pieces_eq]
  exact Text.takeWhile_append_run (fun line hline => bne_iff_ne.mpr (h.before_other line hline))
    (by simp [h.head_header])

theorem dropWhile_pieces (h : cut.Separates output header) :
    (output.pieces.dropWhile fun line => line.trim != header) =
      cut.head :: (cut.body.pieces ++ cut.rest.pieces) := by
  rw [h.pieces_eq]
  exact Text.dropWhile_append_run (fun line hline => bne_iff_ne.mpr (h.before_other line hline))
    (by simp [h.head_header])

theorem takeWhile_below (h : cut.Separates output header) :
    (cut.body.pieces ++ cut.rest.pieces).takeWhile isIndented = cut.body.pieces := by
  have hbody : ∀ line ∈ cut.body.pieces, isIndented line = true :=
    fun line hline => isIndented_iff.mpr (h.body_indented line hline)
  rw [List.takeWhile_append_of_pos hbody, takeWhile_pieces_flush h.rest_flush, List.append_nil]

theorem section?_eq (h : cut.Separates output header) :
    Dump.section? output header = some cut.body := by
  rw [section?, h.dropWhile_pieces]
  simp only
  rw [h.takeWhile_below, Text.flatten_pieces]

theorem unique (h : cut.Separates output header) (h' : cut'.Separates output header) :
    cut' = cut := by
  have hbefore : cut'.before.pieces = cut.before.pieces :=
    h'.takeWhile_pieces.symm.trans h.takeWhile_pieces
  obtain ⟨hhead, hbelow⟩ := List.cons.inj (h'.dropWhile_pieces.symm.trans h.dropWhile_pieces)
  have hbody : cut'.body.pieces = cut.body.pieces := by
    rw [← h'.takeWhile_below, hbelow, h.takeWhile_below]
  rw [hbody] at hbelow
  have hrest : cut'.rest.pieces = cut.rest.pieces := List.append_cancel_left hbelow
  have same : ∀ {a b : Text}, a.pieces = b.pieces → a = b := fun {a b} hpieces => by
    rw [← a.flatten_pieces, hpieces, b.flatten_pieces]
  cases cut
  cases cut'
  simp only at hbefore hhead hbody hrest
  rw [same hbefore, hhead, same hbody, same hrest]

/-- The section is empty exactly if nothing or a line in column zero follows the header. -/
theorem body_eq_nil_iff (h : cut.Separates output header) :
    cut.body = [] ↔ ∀ c ∈ (cut.body ++ cut.rest).head?, isBlank c = false := by
  refine ⟨fun hbody => by simpa [hbody] using h.rest_flush, fun hflush => ?_⟩
  by_contra hbody
  obtain ⟨c, body, hcons⟩ := List.exists_cons_of_ne_nil hbody
  obtain ⟨piece, pieces, hpieces⟩ := Text.exists_pieces_cons c body
  have hblank : isBlank c = true :=
    h.body_indented (c :: piece) (by rw [hcons, hpieces]; exact List.mem_cons_self) c rfl
  have hflat : isBlank c = false := hflush c (by rw [hcons]; rfl)
  exact Bool.false_ne_true (hflat.symm.trans hblank)

end Cut.Separates

variable {output header : Text}

theorem section?_eq_none_iff :
    Dump.section? output header = none ↔ ∀ line ∈ output.pieces, line.trim ≠ header := by
  have hdrop : section? output header = none ↔
      (output.pieces.dropWhile fun line => line.trim != header) = [] := by
    unfold section?
    split
    next hnil => simp [hnil]
    next head below hcons => simp [hcons]
  simp only [hdrop, List.dropWhile_eq_nil_iff, bne_iff_ne]

/-- Pieces in the order of a cut make one. -/
theorem separates_of_pieces {above body rest : List Text} {head : Text}
    (hpieces : output.pieces = above ++ head :: (body ++ rest))
    (hother : ∀ line ∈ above, line.trim ≠ header) (hhead : head.trim = header)
    (hindented : ∀ line ∈ body, isIndented line = true)
    (hflush : ∀ line ∈ rest.head?, isIndented line = false) :
    (⟨above.flatten, head, body.flatten, rest.flatten⟩ : Cut).Separates output header := by
  -- The dump is parted above the header, below it, and behind the section.
  obtain ⟨habove, hlower, habove_whole⟩ := Text.pieces_flatten_of_append hpieces
  obtain ⟨-, hbelow, hhead_whole⟩ := Text.pieces_flatten_of_append (a := [head]) hlower
  obtain ⟨hbody, hrest, hbody_whole⟩ := Text.pieces_flatten_of_append hbelow
  have hline : Text.IsLine head :=
    Text.isLine_of_mem_pieces (hpieces ▸ List.mem_append_right above List.mem_cons_self)
  have hnonempty : ∀ {lines : List Text}, lines.flatten ≠ [] → lines ≠ [] := by
    rintro _ hne rfl
    exact hne rfl
  refine
    { split := ?_
      before_whole := habove_whole (List.cons_ne_nil _ _)
      before_other := by rwa [habove]
      head_line := hline
      head_header := hhead
      head_whole := fun hne => ?_
      body_indented := fun line hmem => isIndented_iff.mp (hindented line (hbody ▸ hmem))
      body_whole := fun hne => hbody_whole (hnonempty hne)
      rest_flush := ?_ }
  · rw [← output.flatten_pieces, hpieces]
    simp
  · rw [← List.flatten_append] at hne
    simpa using hhead_whole (hnonempty hne)
  · cases rest with
    | nil => exact nofun
    | cons line rest =>
      have hfirst : isIndented line = false := hflush line rfl
      cases line with
      | nil => cases hfirst
      | cons c line => simpa [isIndented] using hfirst

/-- A dump with a line that is the header can be cut at its section. -/
theorem exists_separates (h : ∃ line ∈ output.pieces, line.trim = header) :
    ∃ cut : Cut, cut.Separates output header := by
  obtain ⟨head, hfind⟩ := Option.isSome_iff_exists.mp
    (List.find?_isSome (p := fun line => Text.trim line == header) |>.mpr (by simpa using h))
  obtain ⟨hhead, above, below, hlines, hother⟩ := List.find?_eq_some_iff_append.mp hfind
  have hpieces : output.pieces =
      above ++ head :: (below.takeWhile isIndented ++ below.dropWhile isIndented) := by
    rw [List.takeWhile_append_dropWhile, hlines]
  refine ⟨_, separates_of_pieces hpieces (fun line hmem => ?_) (by simpa using hhead)
    (fun line => List.mem_takeWhile_imp) fun line hmem => ?_⟩
  · simpa using hother line hmem
  · have hnot := List.head?_dropWhile_not isIndented below
    rw [Option.mem_def.mp hmem] at hnot
    exact hnot

/-- There is a section exactly if a line of the dump is the header.  Then the dump can be cut in one
way alone, and the section is what the cut has below the header: nothing exactly if nothing follows
the header or a line in column zero.  The offsets in bytes at which the program cuts the dump are
those of this cut. -/
theorem section?_cut (output header : Text) :
    (section? output header = none ↔ ∀ line ∈ output.lines, line.trim ≠ header) ∧
    ((∃ line ∈ output.lines, line.trim = header) → ∃ cut : Cut, cut.Separates output header ∧
      (∀ cut' : Cut, cut'.Separates output header → cut' = cut) ∧
      Dump.section? output header = some cut.body ∧
      (cut.body = [] ↔ ∀ c ∈ (cut.body ++ cut.rest).head?, isBlank c = false)) ∧
    (Utf8.size output ≤ Config.maxWord →
      Word.section? output header = .ok (section? output header)) := by
  refine ⟨?_, fun h => ?_, fun hsize => Word.section?_eq hsize header⟩
  · simp only [section?_eq_none_iff, Text.lines, List.forall_mem_map, Text.trim_dropLineEnd]
  · have hheader : ∃ line ∈ output.pieces, line.trim = header := by
      simpa [Text.lines, Text.trim_dropLineEnd] using h
    obtain ⟨cut, hcut⟩ := exists_separates hheader
    exact ⟨cut, hcut, fun cut' hcut' => hcut.unique hcut', hcut.section?_eq, hcut.body_eq_nil_iff⟩

end Dump

end TemplateMap
