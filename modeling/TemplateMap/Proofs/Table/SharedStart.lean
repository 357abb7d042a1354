import TemplateMap.Proofs.Table.Reverse

/-! Segments that share a generated start.  The start itself is answered from the first of them in
the table, but the lines behind it are answered from the last one: the walk over sorted starts goes
on while the next start is not past the line.  So the template lines after a shared start need not
continue the one at the start. -/

namespace TemplateMap.Table

variable {t : Table} {line : Int}

/-- At or past some generated start, the first segment with the last start answers the line exactly
if it is that start; past it, the last such segment answers.  The first one would give the same
answer only if it is at the same distance. -/
theorem reverse?_sharedStart (h : ∃ s ∈ t, (s.generated : Int) ≤ line) :
    ∃ first last, (t.lastStarts line).head? = some first ∧
      (t.lastStarts line).getLast? = some last ∧
      (first.generated = line → t.reverse? line = some ⟨offsetFrom first line, .exact⟩) ∧
      (first.generated ≠ line → t.reverse? line = some ⟨offsetFrom last line, .interpolated⟩ ∧
        (t.reverse? line = some ⟨offsetFrom first line, .interpolated⟩ ↔
          offsetFrom first line = offsetFrom last line)) := by
  obtain ⟨s, hs, hle⟩ := h
  obtain ⟨first, last, hfirst, hlast, hreverse⟩ := reverse?_lastStarts hs hle
  refine ⟨first, last, hfirst, hlast, fun hstart => ?_, fun hne => ?_⟩
  · rw [hreverse, if_pos hstart, ← hstart, offsetFrom_start]
  · rw [if_neg hne] at hreverse
    rw [hreverse]
    refine ⟨rfl, ?_⟩
    simp only [Option.some.injEq, Hit.mk.injEq, and_true]
    exact eq_comm

/-- Two template lines at one generated line, the later one first. -/
def twoAtOnce : Table := [.single 8 50, .single 3 50]

theorem twoAtOnce_sharedStart : (∃ s ∈ twoAtOnce, (s.generated : Int) ≤ 51) ∧
    twoAtOnce.reverse? 51 = some ⟨4, .interpolated⟩ := by
  have hstart : ∃ s ∈ twoAtOnce, (s.generated : Int) ≤ 51 :=
    ⟨.single 8 50, List.mem_cons_self, by decide⟩
  obtain ⟨first, last, hfirst, hlast, -, hpast⟩ := reverse?_sharedStart hstart
  obtain rfl : Segment.single 8 50 = first := Option.some.inj hfirst
  obtain rfl : Segment.single 3 50 = last := Option.some.inj hlast
  exact ⟨hstart, (hpast (by decide)).1⟩

/-- The lines behind a shared start are not always answered from the first segment that has it. -/
theorem not_forall_sharedStart : ¬ ∀ (t : Table) (line : Int) (first : Segment),
    (t.lastStarts line).head? = some first →
      t.reverse? line = some ⟨offsetFrom first line,
        if (first.generated : Int) = line then .exact else .interpolated⟩ := by
  intro h
  have hclaimed := h twoAtOnce 51 (.single 8 50) (by decide +kernel)
  have hmem : Segment.single 8 50 ∈ twoAtOnce := List.mem_cons_self
  have hle : ((Segment.single 8 50).generated : Int) ≤ 51 := by decide
  obtain ⟨first, last, hfirst, hlast, hreverse⟩ := reverse?_lastStarts hmem hle
  obtain rfl : Segment.single 8 50 = first := Option.some.inj hfirst
  obtain rfl : Segment.single 3 50 = last := Option.some.inj hlast
  rw [hclaimed] at hreverse
  exact absurd hreverse (by decide)

end TemplateMap.Table
