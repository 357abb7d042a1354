import Mathlib.Data.List.Basic
import TemplateMap.Stratum

/-! Lines cut at their markers: the lines in front and the sections, each of which begins with its
marker line.  `Layout.lines_ofLines` and `Layout.ofLines_lines` say that lines can be cut in exactly
one way. -/

namespace TemplateMap.Stratum

theorem isMarker_files : isMarker ['*', 'F'] = true := rfl

theorem isMarker_lines : isMarker ['*', 'L'] = true := rfl

theorem isMarker_of_mem_nil : ∀ line ∈ ([] : List Text), isMarker line = false := nofun

/-- A section of a text: the marker line that opens it and the lines up to the next marker. -/
structure Section where
  marker : Text
  body : List Text
  marker_isMarker : isMarker marker = true
  body_plain : ∀ line ∈ body, isMarker line = false

/-- Lines cut at their markers: those before the first marker, and the sections. -/
structure Layout where
  lead : List Text
  parts : List Section
  lead_plain : ∀ line ∈ lead, isMarker line = false

/-- The lines of a section, its marker first. -/
def Section.lines (p : Section) : List Text := p.marker :: p.body

namespace Layout

/-- The lines that were cut. -/
def lines (l : Layout) : List Text := l.lead ++ l.parts.flatMap Section.lines

/-- One more line in front: a marker opens a section of the lines that were in front so far. -/
def cons (line : Text) (l : Layout) : Layout :=
  if h : isMarker line then
    { lead := []
      parts := ⟨line, l.lead, h, l.lead_plain⟩ :: l.parts
      lead_plain := isMarker_of_mem_nil }
  else
    { lead := line :: l.lead
      parts := l.parts
      lead_plain := List.forall_mem_cons.mpr ⟨Bool.eq_false_iff.mpr h, l.lead_plain⟩ }

/-- The cut of the lines. -/
def ofLines (lines : List Text) : Layout := lines.foldr cons ⟨[], [], isMarker_of_mem_nil⟩

theorem lines_cons (line : Text) (l : Layout) : (l.cons line).lines = line :: l.lines := by
  unfold cons
  split <;> rfl

@[simp] theorem lines_ofLines (lines : List Text) : (ofLines lines).lines = lines := by
  induction lines with
  | nil => rfl
  | cons line rest ih => exact (lines_cons line (ofLines rest)).trans (congrArg _ ih)

theorem cons_of_plain {line : Text} (h : isMarker line = false) (l : Layout)
    (hplain : ∀ x ∈ line :: l.lead, isMarker x = false) :
    l.cons line = ⟨line :: l.lead, l.parts, hplain⟩ := by
  unfold cons
  rw [dif_neg (by simp [h])]

theorem foldr_cons_append {lead : List Text} (hlead : ∀ line ∈ lead, isMarker line = false)
    (l : Layout) (hplain : ∀ line ∈ lead ++ l.lead, isMarker line = false) :
    lead.foldr cons l = ⟨lead ++ l.lead, l.parts, hplain⟩ := by
  induction lead with
  | nil => rfl
  | cons line rest ih =>
    obtain ⟨hline, hrest⟩ := List.forall_mem_cons.mp hlead
    rw [List.foldr_cons, ih hrest (List.forall_mem_cons.mp hplain).2]
    exact cons_of_plain hline _ _

/-- There is one way to cut lines at their markers. -/
@[simp] theorem ofLines_lines (l : Layout) : ofLines l.lines = l := by
  obtain ⟨lead, parts, hlead⟩ := l
  have hparts : (parts.flatMap Section.lines).foldr cons ⟨[], [], nofun⟩ = ⟨[], parts, nofun⟩ := by
    clear hlead lead
    induction parts with
    | nil => rfl
    | cons p rest ih =>
      have hbody := p.body_plain
      rw [List.flatMap_cons, List.foldr_append, ih, Section.lines, List.foldr_cons,
        foldr_cons_append hbody _ (by simpa using hbody), cons, dif_pos p.marker_isMarker]
      simp
  unfold ofLines lines
  rw [List.foldr_append, hparts, foldr_cons_append hlead _ (by simpa using hlead)]
  simp

end Layout

end TemplateMap.Stratum
