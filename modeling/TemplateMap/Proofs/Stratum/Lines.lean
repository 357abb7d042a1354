import TemplateMap.Proofs.Text.Indent
import TemplateMap.Stratum

/-! The lines that count for the table of a text: neither white space at their ends nor lines of
white space do, so an indented text has the table of the text. -/

namespace TemplateMap.Stratum

theorem significantLines_eq (t : Text) :
    significantLines t = ((Text.pieces t).map Text.trim).filter fun line => !line.isEmpty := by
  have htrim : Text.trim ∘ Text.dropLineEnd = Text.trim := funext Text.trim_dropLineEnd
  rw [significantLines, Text.lines, List.map_map, htrim]

theorem significantLines_indented {margin : Nat → Text} (h : ∀ n, IsMargin (margin n)) (t : Text) :
    significantLines (Text.indented margin t) = significantLines t := by
  rw [significantLines_eq, significantLines_eq, Text.trim_pieces_indented h]

/-- What a line of a text says: the line trimmed, if it is more than white space. -/
def significant (line : Text) : List Text := [line.trim].filter fun line => !line.isEmpty

theorem significant_margins {left right : Text} (hleft : ∀ c ∈ left, isBlank c = true)
    (hright : ∀ c ∈ right, isBlank c = true) (line : Text) :
    significant (left ++ line ++ right) = significant line := by
  rw [significant, Text.trim_append_right hright, Text.trim_append_left hleft, significant]

theorem significant_blank {gap : Text} (h : ∀ c ∈ gap, isBlank c = true) :
    significant gap = [] := by
  simp [significant, Text.trim_eq_nil_iff.mpr h]

theorem significantLines_nil : significantLines [] = [] := rfl

theorem significantLines_cons {line : Text} (h : '\n' ∉ line) (rest : Text) :
    significantLines (line ++ '\n' :: rest) = significant line ++ significantLines rest := by
  rw [significantLines_eq, significantLines_eq, Text.pieces_append h, List.map_cons,
    Text.trim_append_right (List.forall_mem_singleton.mpr rfl), ← List.singleton_append,
    List.filter_append, significant]

theorem significantLines_line {line : Text} (h : '\n' ∉ line) :
    significantLines line = significant line := by
  cases line with
  | nil => rfl
  | cons c line => rw [significantLines_eq, Text.pieces_line (List.cons_ne_nil c line) h]; rfl

/-- A text put behind whole lines says what the two say. -/
theorem significantLines_append_of_isWhole {before : Text} (h : Text.IsWhole before)
    (rest : Text) :
    significantLines (before ++ rest) = significantLines before ++ significantLines rest := by
  simp only [significantLines_eq, Text.pieces_append_of_isWhole h, List.map_append,
    List.filter_append]

/-- How a line is ended does not matter. -/
theorem significantLines_ending {line ending rest : Text} (h : '\n' ∉ line)
    (hending : Text.IsEnding ending rest) :
    significantLines (line ++ ending ++ rest) = significant line ++ significantLines rest := by
  cases hending with
  | feed => simpa using significantLines_cons h rest
  | returnFeed =>
    have hreturn : '\n' ∉ line ++ ['\r'] := by simpa using h
    have hsame : significant (line ++ ['\r']) = significant line := by
      rw [significant, Text.trim_append_right (List.forall_mem_singleton.mpr rfl), significant]
    simpa [hsame] using significantLines_cons hreturn rest
  | missing => simpa [significantLines_nil] using significantLines_line h

/-- A line feed between two texts keeps their lines apart. -/
theorem significantLines_append_newline (t rest : Text) :
    significantLines (t ++ '\n' :: rest) = significantLines t ++ significantLines rest := by
  have hfeed : significantLines (t ++ ['\n']) = significantLines t := by
    induction t using Text.line_induction with
    | nil => rfl
    | last line _ h => simpa [significantLines_nil, significantLines_line h] using
        significantLines_cons h []
    | line line rest' h ih =>
      rw [List.append_assoc, List.cons_append, significantLines_cons h, ih,
        significantLines_cons h]
  have hwhole : Text.IsWhole (t ++ ['\n']) := by simp [Text.IsWhole]
  rw [← hfeed, ← significantLines_append_of_isWhole hwhole, List.append_assoc]
  rfl

theorem significantLines_append {line : Text} (h : IsToken line) (rest : Text) :
    significantLines (line ++ '\n' :: rest) = line :: significantLines rest := by
  rw [significantLines_cons h.newline_notMem, significant, h.isTrimmed.trim_eq,
    List.filter_cons_of_pos (by simp [h.nonempty]), List.filter_nil]
  rfl

theorem scan_congr {s t : Text} (h : significantLines s = significantLines t) :
    scan s = scan t := by
  simp only [scan, h]

/-- Texts with the same significant lines have the same table. -/
theorem parse_congr {s t : Text} (h : significantLines s = significantLines t)
    (template : Template) : parse s template = parse t template := by
  simp only [parse, scan_congr h]

end TemplateMap.Stratum
