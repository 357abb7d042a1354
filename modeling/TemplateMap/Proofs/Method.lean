import TemplateMap.Proofs.LineMap.Ordered
import TemplateMap.Proofs.Table.Neighbours
import TemplateMap.Proofs.Word.Method

/-! The table that spreads template lines over a method.  There are never more template lines than
lines of the method, so each of them goes to a generated line of its own, all lie within the method,
and the queries on the table undo each other. -/

namespace TemplateMap.Method

variable {divisor i j : Nat} {span : MethodSpan}

/-- How many template lines are spread over a span. -/
def lineCount (divisor : Nat) (span : MethodSpan) : Nat := max 1 (span.width / max 1 divisor)

/-- How far below the first line of a span the template line is that has `i` others before it. -/
def offset (divisor : Nat) (span : MethodSpan) (i : Nat) : Nat :=
  i * span.width / max 1 (lineCount divisor span - 1)

/-- The segment of the template line that has `i` others before it. -/
def spreadSegment (divisor : Nat) (span : MethodSpan) (i : Nat) : Segment :=
  .single (i + 1) (span.first + offset divisor span i + 1)

theorem spread_eq_map (divisor : Nat) (span : MethodSpan) : spread divisor span =
    (List.range (lineCount divisor span)).map (spreadSegment divisor span) := rfl

theorem mem_spread_iff {s : Segment} : s ∈ spread divisor span ↔
    ∃ i < lineCount divisor span, spreadSegment divisor span i = s := by
  simp [spread_eq_map]

/-! ### Offsets -/

theorem lineCount_le_width (h : 2 ≤ lineCount divisor span) :
    lineCount divisor span ≤ span.width := by
  have hquotient := Nat.div_le_self span.width (max 1 divisor)
  unfold lineCount at *
  omega

theorem offset_zero (divisor : Nat) (span : MethodSpan) : offset divisor span 0 = 0 := by
  rw [offset, Nat.zero_mul, Nat.zero_div]

theorem offset_last (h : 2 ≤ lineCount divisor span) :
    offset divisor span (lineCount divisor span - 1) = span.width := by
  rw [offset, Nat.max_eq_right (by omega), Nat.mul_div_cancel_left _ (by omega)]

theorem offset_lt_offset (hij : i < j) (hj : j < lineCount divisor span) :
    offset divisor span i < offset divisor span j := by
  have hwidth : lineCount divisor span ≤ span.width := lineCount_le_width (by omega)
  unfold offset
  generalize hsteps : max 1 (lineCount divisor span - 1) = steps
  have hpos : 0 < steps := by omega
  -- A template line is further down than the one before it by at least one line.
  have hstep : i * span.width + steps ≤ j * span.width :=
    calc i * span.width + steps ≤ i * span.width + span.width := by omega
      _ = (i + 1) * span.width := (Nat.succ_mul i span.width).symm
      _ ≤ j * span.width := Nat.mul_le_mul_right _ hij
  calc i * span.width / steps < i * span.width / steps + 1 := Nat.lt_succ_self _
    _ = (i * span.width + steps) / steps := (Nat.add_div_right _ hpos).symm
    _ ≤ j * span.width / steps := Nat.div_le_div_right hstep

theorem offset_le_width (hi : i < lineCount divisor span) : offset divisor span i ≤ span.width :=
  Nat.div_le_of_le_mul (Nat.mul_le_mul_right _ (by omega))

/-! ### The table -/

section

variable (h : span.first ≤ span.last) (hlast : span.last < lastLine)
  (hi : i < lineCount divisor span)
include h hlast hi

theorem spreadSegment_lines : (spreadSegment divisor span i).template = i + 1 ∧
    (spreadSegment divisor span i).generated = span.first + offset divisor span i + 1 := by
  have hoffset := offset_le_width hi
  have htemplate : i ≤ span.width := by
    by_contra hlt
    have hwidth : lineCount divisor span ≤ span.width := lineCount_le_width (by omega)
    omega
  -- Both lines are at most the last one there is, so neither is clamped.
  unfold MethodSpan.width at hoffset htemplate
  exact ⟨Segment.template_single (by omega), Segment.generated_single (by omega)⟩

theorem spreadSegment_generated_le : (spreadSegment divisor span i).generated ≤ span.last + 1 := by
  have hoffset := offset_le_width hi
  unfold MethodSpan.width at hoffset
  rw [(spreadSegment_lines h hlast hi).2]
  omega

end

/-- The table of a span has a line for each template line, in the order of both sides. -/
theorem spread_rising (h : span.first ≤ span.last) (hlast : span.last < lastLine) :
    (spread divisor span).Rising where
  count s hs := by
    obtain ⟨i, -, rfl⟩ := mem_spread_iff.mp hs
    rfl
  template_pos s hs := by
    obtain ⟨i, hi, rfl⟩ := mem_spread_iff.mp hs
    rw [(spreadSegment_lines h hlast hi).1]
    exact Nat.le_add_left 1 i
  generated_pos s hs := by
    obtain ⟨i, hi, rfl⟩ := mem_spread_iff.mp hs
    rw [(spreadSegment_lines h hlast hi).2]
    exact Nat.le_add_left 1 _
  template_lt := by
    rw [spread_eq_map]
    refine List.pairwise_map.mpr (List.pairwise_lt_range.imp_of_mem fun hi hj hlt => ?_)
    rw [List.mem_range] at hi hj
    rw [(spreadSegment_lines h hlast hi).1, (spreadSegment_lines h hlast hj).1]
    omega
  generated_lt := by
    rw [spread_eq_map]
    refine List.pairwise_map.mpr (List.pairwise_lt_range.imp_of_mem fun hi hj hlt => ?_)
    rw [List.mem_range] at hi hj
    have hoffset := offset_lt_offset hlt hj
    rw [(spreadSegment_lines h hlast hi).2, (spreadSegment_lines h hlast hj).2]
    omega

theorem head?_spread (h : span.first ≤ span.last) (hlast : span.last < lastLine) (divisor : Nat) :
    (spread divisor span).head?.map (·.generated) = some (span.first + 1) := by
  have hpos : 0 < lineCount divisor span := Nat.le_max_left _ _
  rw [spread_eq_map, List.head?_map, List.head?_range, if_neg hpos.ne', Option.map_some,
    Option.map_some, (spreadSegment_lines h hlast hpos).2, offset_zero, Nat.add_zero]

theorem getLast?_spread (h : span.first ≤ span.last) (hlast : span.last < lastLine)
    (hcount : 2 ≤ lineCount divisor span) :
    (spread divisor span).getLast?.map (·.generated) = some (span.last + 1) := by
  have hi : lineCount divisor span - 1 < lineCount divisor span := by omega
  rw [spread_eq_map, List.getLast?_map, List.getLast?_range, if_neg (by omega), Option.map_some,
    Option.map_some, (spreadSegment_lines h hlast hi).2, offset_last hcount, MethodSpan.width,
    Nat.add_sub_cancel' h]

/-- A method that is found in a source of less than `2 ^ 32` lines lies within it, and the table that
spreads template lines over the method is computed on machine words as on unbounded numbers, without
a clamped line.  The template lines are those from 1 on, each with a generated line of its own in
ascending order, the first one that of the method and the last one, if there are two, that of its
end; so the queries undo each other on them. -/
theorem spread_of_find? {lines : List Text} {anchor : Text} (divisor : Nat)
    (hlines : lines.length < 2 ^ 32) (hfind : find? lines anchor = some span) :
    span.first ≤ span.last ∧ span.last < lines.length ∧
    Word.spread divisor span = .ok (spread divisor span) ∧
    ((spread divisor span).map fun s => (s.template, s.generated)) =
      (List.range (lineCount divisor span)).map (fun i =>
        (i + 1, span.first + offset divisor span i + 1)) ∧
    (spread divisor span).Rising ∧
    (spread divisor span).head?.map (·.generated) = some (span.first + 1) ∧
    (∀ s ∈ spread divisor span, s.generated ≤ span.last + 1) ∧
    (2 ≤ lineCount divisor span →
      (spread divisor span).getLast?.map (·.generated) = some (span.last + 1)) ∧
    ∀ t : Nat, 1 ≤ t → t ≤ lineCount divisor span → ∃ g : Nat,
      (spread divisor span).forward? t = some ⟨g, .exact⟩ ∧
      (spread divisor span).reverse? g = some ⟨t, .exact⟩ := by
  obtain ⟨hle, hwithin⟩ := span_of_find? hfind
  have hlast : span.last < lastLine := by
    unfold lastLine
    omega
  have hrising : (spread divisor span).Rising := spread_rising hle hlast
  refine ⟨hle, hwithin, Word.spread_eq hle hlast.le divisor, ?_, hrising,
    head?_spread hle hlast divisor, fun s hs => ?_, getLast?_spread hle hlast,
    fun t hpos ht => ?_⟩
  · rw [spread_eq_map, List.map_map]
    refine List.map_congr_left fun i hi => ?_
    obtain ⟨htemplate, hgenerated⟩ := spreadSegment_lines hle hlast (List.mem_range.mp hi)
    rw [Function.comp_apply, htemplate, hgenerated]
  · obtain ⟨i, hi, rfl⟩ := mem_spread_iff.mp hs
    exact spreadSegment_generated_le hle hlast hi
  · obtain ⟨i, rfl⟩ := Nat.exists_eq_add_of_le' hpos
    have hmem : spreadSegment divisor span i ∈ spread divisor span :=
      mem_spread_iff.mpr ⟨i, ht, rfl⟩
    have hqueries := hrising.queries_start hmem
    rw [(spreadSegment_lines hle hlast ht).1] at hqueries
    exact ⟨_, hqueries⟩

/-- A method of eleven lines in a class. -/
def smallClass : List Text :=
  ["class A \x7b".toList, "void _jspService() \x7b".toList] ++
    List.replicate 9 "out.write();".toList ++ ["\x7d".toList, "\x7d".toList]

theorem smallClass_spread : smallClass.length < 2 ^ 32 ∧
    find? smallClass "_jspService".toList = some ⟨1, 11⟩ ∧
    (spread 3 ⟨1, 11⟩).getLast?.map (·.generated) = some 12 ∧
    ∃ g : Nat, (spread 3 ⟨1, 11⟩).forward? (2 : Nat) = some ⟨g, .exact⟩ ∧
      (spread 3 ⟨1, 11⟩).reverse? g = some ⟨2, .exact⟩ := by
  have hlines : smallClass.length < 2 ^ 32 := by decide
  have hfind : find? smallClass "_jspService".toList = some ⟨1, 11⟩ := by decide +kernel
  obtain ⟨-, -, -, -, -, -, -, hend, hqueries⟩ := spread_of_find? 3 hlines hfind
  exact ⟨hlines, hfind, hend (by decide), hqueries 2 (by decide) (by decide)⟩

end TemplateMap.Method
