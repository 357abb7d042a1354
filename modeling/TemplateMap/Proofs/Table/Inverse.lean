import Mathlib.Data.List.Pairwise
import Mathlib.Order.CompletePartialOrder
import Mathlib.Order.Interval.Set.Disjoint
import TemplateMap.Proofs.Table.Forward
import TemplateMap.Proofs.Table.Reverse

/-! Tables on which the two queries undo each other: every segment has stride one, and no line
belongs to two segments, neither on the template side nor on the generated one.  The forward query
scans in table order and the reverse one walks over sorted starts, without a segment's own extent;
on such a table both find the one segment that the line belongs to. -/

namespace TemplateMap

namespace Segment

/-- The template lines of a segment. -/
def templateLines (s : Segment) : Set Nat := Set.Ico s.template (s.template + s.count)

/-- The generated lines of a segment with stride one. -/
def generatedLines (s : Segment) : Set Nat := Set.Ico s.generated (s.generated + s.count)

theorem mem_templateLines {s : Segment} {line : Nat} :
    line ∈ s.templateLines ↔ s.template ≤ line ∧ line < s.template + s.count := Iff.rfl

theorem mem_generatedLines {s : Segment} {line : Nat} :
    line ∈ s.generatedLines ↔ s.generated ≤ line ∧ line < s.generated + s.count := Iff.rfl

theorem generated_mem (s : Segment) : s.generated ∈ s.generatedLines :=
  ⟨Nat.le_refl _, by have := s.count_pos; omega⟩

theorem covers_iff {s : Segment} {line : Nat} : s.covers line = true ↔ line ∈ s.templateLines := by
  rw [covers_eq_true_iff, mem_templateLines]
  omega

/-- Of segments that share no line, only one has a given line. -/
theorem eq_of_mem {lines : Segment → Set Nat} {t : Table} {a b : Segment} {line : Nat}
    (h : t.Pairwise fun a b => Disjoint (lines a) (lines b)) (ha : a ∈ t) (hb : b ∈ t)
    (hline : line ∈ lines a) (hline' : line ∈ lines b) : a = b := by
  have symm : Std.Symm fun a b : Segment => Disjoint (lines a) (lines b) :=
    ⟨fun _ _ apart => apart.symm⟩
  by_contra hne
  have apart : Disjoint (lines a) (lines b) := h.forall ha hb hne
  exact Set.disjoint_left.mp apart hline hline'

end Segment

namespace Table

/-- Every segment has stride one and lies between the first and the last line on both sides, and
two segments share a line on neither side. -/
structure OneToOne (t : Table) : Prop where
  stride : ∀ s ∈ t, s.stride = 1
  template_pos : ∀ s ∈ t, 1 ≤ s.template
  generated_pos : ∀ s ∈ t, 1 ≤ s.generated
  template_end : ∀ s ∈ t, s.template + s.count ≤ lastLine + 1
  generated_end : ∀ s ∈ t, s.generated + s.count ≤ lastLine + 1
  template_disjoint : t.Pairwise fun a b => Disjoint a.templateLines b.templateLines
  generated_disjoint : t.Pairwise fun a b => Disjoint a.generatedLines b.generatedLines

variable {t : Table} {s : Segment}

/-- No two segments share a template line. -/
def Apart (t : Table) : Prop := t.Pairwise fun a b => Disjoint a.templateLines b.templateLines

theorem Apart.eq_of_covers (h : t.Apart) {p n : Segment} (hp : p ∈ t) (hn : n ∈ t) {line : Int}
    (hpcovers : p.covers line = true) (hncovers : n.covers line = true) : p = n := by
  obtain ⟨hlow, -⟩ := Segment.covers_eq_true_iff.mp hpcovers
  lift line to Nat using by omega
  exact Segment.eq_of_mem h hp hn (Segment.covers_iff.mp hpcovers) (Segment.covers_iff.mp hncovers)

/-- So the first segment that covers a line is the one that does. -/
theorem Apart.find?_eq_some_iff (h : t.Apart) {line : Int} :
    t.find? (·.covers line) = some s ↔ s ∈ t ∧ s.covers line = true := by
  constructor
  · intro hfind
    exact ⟨List.mem_of_find?_eq_some hfind, by simpa using List.find?_some hfind⟩
  · rintro ⟨hs, hcovers⟩
    obtain ⟨x, hx⟩ : ∃ x, t.find? (·.covers line) = some x :=
      Option.isSome_iff_exists.mp (List.find?_isSome.mpr ⟨s, hs, hcovers⟩)
    have hxcovers : x.covers line = true := by simpa using List.find?_some hx
    rw [hx, h.eq_of_covers (List.mem_of_find?_eq_some hx) hs hxcovers hcovers]

/-- Where no two segments share a template line, a template line of a segment with stride one goes
exactly to the generated line at the same place. -/
theorem forward?_of_disjoint (h : t.Apart) (hs : s ∈ t) {line : Nat}
    (hline : line ∈ s.templateLines) (hstride : s.stride = 1) (hpos : 1 ≤ s.generated)
    (hend : s.generated + s.count ≤ lastLine + 1) :
    t.forward? line = some ⟨s.generated + (line - s.template), .exact⟩ := by
  have hfind : t.find? (·.covers line) = some s :=
    h.find?_eq_some_iff.mpr ⟨hs, Segment.covers_iff.mpr hline⟩
  obtain ⟨hlow, hhigh⟩ := Segment.mem_templateLines.mp hline
  have hplace : (s.generated : Int) + (line - s.template) * s.stride =
      (s.generated + (line - s.template) : Nat) := by
    rw [hstride, Int.natCast_one, Int.mul_one]
    omega
  rw [forward?_of_find? hfind, hplace, clampLine_ofNat (by omega) (by omega)]

theorem OneToOne.forward?_of_mem (h : t.OneToOne) (hs : s ∈ t) {line : Nat}
    (hline : line ∈ s.templateLines) :
    t.forward? line = some ⟨s.generated + (line - s.template), .exact⟩ :=
  forward?_of_disjoint h.template_disjoint hs hline (h.stride s hs) (h.generated_pos s hs)
    (h.generated_end s hs)

/-- A generated line comes from the template line at the same place in its segment. -/
theorem OneToOne.reverse?_of_mem (h : t.OneToOne) (hs : s ∈ t) {line : Nat}
    (hline : line ∈ s.generatedLines) :
    ∃ c, t.reverse? line = some ⟨s.template + (line - s.generated), c⟩ := by
  obtain ⟨hlow, hhigh⟩ := Segment.mem_generatedLines.mp hline
  have hle : (s.generated : Int) ≤ (line : Int) := by omega
  obtain ⟨x, last, hreverse⟩ := reverse?_of_start_le hs hle
  -- The last start lies between the segment's own start and the line, so in the segment.
  have hx : x.generated ∈ s.generatedLines := by
    have hle := last.le
    have hmax := last.max s hs (by omega)
    exact Segment.mem_generatedLines.mpr ⟨hmax, by omega⟩
  obtain rfl : x = s :=
    Segment.eq_of_mem h.generated_disjoint last.mem hs (Segment.generated_mem x) hx
  have hpos := h.template_pos x hs
  have hend := h.template_end x hs
  have hoffset : offsetFrom x line = x.template + (line - x.generated) := by
    unfold offsetFrom
    rw [show (x.template : Int) + (line - x.generated) =
      ((x.template + (line - x.generated) : Nat) : Int) by omega]
    exact clampLine_ofNat (by omega) (by omega)
  exact ⟨_, by rw [hreverse, hoffset]⟩

/-- On the lines of its segments, the two queries on a one-to-one table undo each other: a template
line is the answer for the generated line it goes to, and the template line a generated line comes
from goes back to it exactly. -/
theorem OneToOne.queries_inverse (h : t.OneToOne) :
    (∀ s ∈ t, ∀ q ∈ s.templateLines, ∃ g c, t.forward? q = some ⟨g, .exact⟩ ∧
      t.reverse? g = some ⟨q, c⟩) ∧
    (∀ s ∈ t, ∀ g ∈ s.generatedLines, ∃ q c, t.reverse? g = some ⟨q, c⟩ ∧
      (∃ s' ∈ t, q ∈ s'.templateLines) ∧ t.forward? q = some ⟨g, .exact⟩) := by
  constructor
  · intro s hs q hq
    obtain ⟨hlow, hhigh⟩ := Segment.mem_templateLines.mp hq
    have hg : s.generated + (q - s.template) ∈ s.generatedLines :=
      Segment.mem_generatedLines.mpr ⟨by omega, by omega⟩
    obtain ⟨c, hreverse⟩ := h.reverse?_of_mem hs hg
    refine ⟨_, c, h.forward?_of_mem hs hq, ?_⟩
    rw [hreverse, show s.template + (s.generated + (q - s.template) - s.generated) = q by omega]
  · intro s hs g hg
    obtain ⟨hlow, hhigh⟩ := Segment.mem_generatedLines.mp hg
    have hq : s.template + (g - s.generated) ∈ s.templateLines :=
      Segment.mem_templateLines.mpr ⟨by omega, by omega⟩
    obtain ⟨c, hreverse⟩ := h.reverse?_of_mem hs hg
    refine ⟨_, c, hreverse, ⟨s, hs, hq⟩, ?_⟩
    rw [h.forward?_of_mem hs hq,
      show s.generated + (s.template + (g - s.generated) - s.template) = g by omega]

/-- Three segments out of order, which touch one another on both sides. -/
def touching : Table := [.of 10 3 50 1 none, .of 13 1 25 1 none, .of 1 5 20 1 none]

theorem touching_oneToOne : touching.OneToOne where
  stride := by decide
  template_pos := by decide
  generated_pos := by decide
  template_end := by decide
  generated_end := by decide
  template_disjoint := by
    simp only [Segment.templateLines, Set.Ico_disjoint_Ico]
    decide
  generated_disjoint := by
    simp only [Segment.generatedLines, Set.Ico_disjoint_Ico]
    decide

/-- The last template line of the first segment and the generated line between the two others. -/
theorem touching_queries_inverse : touching.OneToOne ∧
    (∃ g c, touching.forward? 12 = some ⟨g, .exact⟩ ∧ touching.reverse? g = some ⟨12, c⟩) ∧
    ∃ q c, touching.reverse? 25 = some ⟨q, c⟩ ∧ (∃ s ∈ touching, q ∈ s.templateLines) ∧
      touching.forward? q = some ⟨25, .exact⟩ := by
  obtain ⟨forward, reverse⟩ := touching_oneToOne.queries_inverse
  exact ⟨touching_oneToOne,
    forward (.of 10 3 50 1 none) (by decide) 12 (Segment.mem_templateLines.mpr (by decide)),
    reverse (.of 13 1 25 1 none) (by decide) 25 (Segment.mem_generatedLines.mpr (by decide))⟩

end Table

end TemplateMap
