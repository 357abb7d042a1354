import TemplateMap.Answer
import TemplateMap.Proofs.Table.Forward
import TemplateMap.Proofs.Table.Reverse

/-! A table with segments answers every line in both directions, and the answer lies between the
first line and the last one. -/

namespace TemplateMap

/-- A hit on one of the lines there are. -/
def Hit.InRange (hit : Hit) : Prop := 1 ≤ hit.line ∧ hit.line ≤ lastLine

namespace Table

theorem inRange_clampLine (n : Int) (c : Confidence) : Hit.InRange ⟨clampLine n, c⟩ :=
  ⟨one_le_clampLine n, clampLine_le n⟩

theorem forward?_inRange {t : Table} (h : t ≠ []) (line : Int) :
    ∃ hit, t.forward? line = some hit ∧ hit.InRange := by
  obtain ⟨g, c, -, hforward⟩ := exists_forwarded h line
  exact ⟨_, hforward, inRange_clampLine ..⟩

theorem reverse?_inRange {t : Table} (h : t ≠ []) (line : Int) :
    ∃ hit, t.reverse? line = some hit ∧ hit.InRange := by
  unfold reverse?
  split
  next hsorted =>
    obtain ⟨s, hs⟩ := List.exists_mem_of_ne_nil t h
    have := mem_byGenerated.mpr hs
    rw [hsorted] at this
    cases this
  next first rest hsorted =>
    split
    next s hfind =>
      have hle := s.template_le
      refine ⟨_, rfl, Nat.le_max_left .., Nat.max_le.mpr ⟨?_, hle⟩⟩
      decide
    next => split <;> exact ⟨_, rfl, inRange_clampLine ..⟩

end Table

namespace TierTable

variable {t : TierTable}

theorem forward_of_ne_nil (h : t.table ≠ []) (line : Int) :
    ∃ a, t.forward line = .ok a ∧ 1 ≤ a.line ∧ a.line ≤ lastLine ∧ a.tier = t.tier := by
  obtain ⟨hit, hforward, hlow, hhigh⟩ := Table.forward?_inRange h line
  exact ⟨⟨hit.line, hit.confidence, t.tier⟩, by rw [forward, hforward, answer], hlow, hhigh, rfl⟩

theorem reverse_of_ne_nil (h : t.table ≠ []) (line : Int) :
    ∃ a, t.reverse line = .ok a ∧ 1 ≤ a.line ∧ a.line ≤ lastLine ∧ a.tier = t.tier := by
  obtain ⟨hit, hreverse, hlow, hhigh⟩ := Table.reverse?_inRange h line
  exact ⟨⟨hit.line, hit.confidence, t.tier⟩, by rw [reverse, hreverse, answer], hlow, hhigh, rfl⟩

end TierTable

end TemplateMap
