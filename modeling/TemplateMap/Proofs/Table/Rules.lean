import TemplateMap.Proofs.Table.Forward
import TemplateMap.Proofs.Table.Reverse
import TemplateMap.Proofs.Word.Table

/-! What the two queries answer, for every table with segments and every line.  The confidence says
how the line lies among the segments, and the line of the answer is a sum on unbounded numbers that
is clamped once, though words of 64 bits are computed with, which saturate on the way. -/

namespace TemplateMap.Table

variable {t : Table} {line g : Int} {c : Confidence}

/-- How a template line lies among the segments: covered by one, with all starts on one side, or
else between starts. -/
def templateConfidence (t : Table) (line : Int) : Confidence :=
  if ∃ s ∈ t, s.covers line = true then .exact
  else if (∀ s ∈ t, (s.template : Int) < line) ∨ ∀ s ∈ t, line < (s.template : Int) then
    .extrapolated
  else .interpolated

/-- How a generated line lies among the segments: at the start of one, ahead of all starts, or else
past some start. -/
def generatedConfidence (t : Table) (line : Int) : Confidence :=
  if ∃ s ∈ t, (s.generated : Int) = line then .exact
  else if ∀ s ∈ t, line < (s.generated : Int) then .extrapolated
  else .interpolated

/-- The rule for the generated line of a template line.  A covered line goes as far along its
segment, the earliest that covers it, as it is from the segment's start; a line with all starts on
one side lies as far from the nearest segment, the earliest of them, as on the template side. -/
structure ForwardRule (t : Table) (line : Int) (hit : Hit) : Prop where
  confidence_eq : hit.confidence = t.templateConfidence line
  exact_line : hit.confidence = .exact → ∃ s, t.find? (·.covers line) = some s ∧
    hit.line = clampLine (s.generated + (line - s.template) * s.stride)
  extrapolated_line : hit.confidence = .extrapolated → ∃ s, t.argmin (·.distance line) = some s ∧
    hit.line = clampLine (s.generated + (line - s.template))

/-- The rule for the template line of a generated line: it lies as far from a segment as on the
generated side, which is one with the first start of all if the line is ahead of that, and one with
the last start at or before the line otherwise. -/
structure ReverseRule (t : Table) (line : Int) (hit : Hit) : Prop where
  confidence_eq : hit.confidence = t.generatedConfidence line
  ahead_line : hit.confidence = .extrapolated → ∃ s ∈ t, (∀ y ∈ t, s.generated ≤ y.generated) ∧
    hit.line = clampLine (s.template + (line - s.generated))
  started_line : hit.confidence ≠ .extrapolated → ∃ s, LastStart t line s ∧
    hit.line = clampLine (s.template + (line - s.generated))

theorem Forwarded.rule (h : t.Forwarded line g c) : t.ForwardRule line ⟨clampLine g, c⟩ := by
  cases h with
  | @covered s first =>
    have hcovers : s.covers line = true := by simpa using List.find?_some first
    have hcovered : ∃ s ∈ t, s.covers line = true := ⟨s, List.mem_of_find?_eq_some first, hcovers⟩
    exact ⟨(if_pos hcovered).symm, fun _ => ⟨s, first, rfl⟩, nofun⟩
  | @between p n uncovered before after =>
    have hnone : ¬ ∃ s ∈ t, s.covers line = true := fun ⟨s, hs, hcovers⟩ => uncovered s hs hcovers
    obtain ⟨hplt, hltn⟩ := lt_of_uncovered uncovered before after
    have hsides : ¬ ((∀ s ∈ t, (s.template : Int) < line) ∨
        ∀ s ∈ t, line < (s.template : Int)) := by
      rintro (hpast | hahead)
      · exact Int.lt_asymm hltn (hpast n (mem_of_after? after).1)
      · exact Int.lt_asymm hplt (hahead p (mem_of_before? before).1)
    exact ⟨by rw [templateConfidence, if_neg hnone, if_neg hsides], nofun, nofun⟩
  | @beside s uncovered side nearest =>
    have hnone : ¬ ∃ s ∈ t, s.covers line = true := fun ⟨s, hs, hcovers⟩ => uncovered s hs hcovers
    exact ⟨by rw [templateConfidence, if_neg hnone, if_pos side], nofun, fun _ => ⟨s, nearest, rfl⟩⟩

/-- Every generated line has an answer by the rule. -/
theorem exists_reverseRule (h : t ≠ []) (line : Int) :
    ∃ hit, t.reverse? line = some hit ∧ t.ReverseRule line hit := by
  by_cases hahead : ∀ s ∈ t, line < (s.generated : Int)
  · obtain ⟨s, hs, hfirst, hreverse⟩ := reverse?_of_lt_starts h hahead
    have hstart : ¬ ∃ s ∈ t, (s.generated : Int) = line := by
      rintro ⟨y, hy, rfl⟩
      exact Int.lt_irrefl _ (hahead y hy)
    refine ⟨_, hreverse, ?_, fun _ => ⟨s, hs, hfirst, rfl⟩, fun hne => absurd rfl hne⟩
    rw [generatedConfidence, if_neg hstart, if_pos hahead]
  · obtain ⟨s, hs, hle⟩ : ∃ s ∈ t, (s.generated : Int) ≤ line := by
      simpa only [not_forall, Int.not_lt, exists_prop] using hahead
    obtain ⟨x, last, hreverse⟩ := reverse?_of_start_le hs hle
    have hstart : (∃ s ∈ t, (s.generated : Int) = line) ↔ (x.generated : Int) = line := by
      constructor
      · rintro ⟨y, hy, hline⟩
        have hxle := last.le
        have hmax := last.max y hy (by omega)
        omega
      · exact fun hline => ⟨x, last.mem, hline⟩
    refine ⟨_, hreverse, ?_, fun hconfidence => ?_, fun _ => ⟨x, last, rfl⟩⟩
    · simp only [generatedConfidence, hstart, if_neg hahead]
    · revert hconfidence
      simp only
      split <;> nofun

/-- Both queries answer every line of a table with segments by their rules, and the answers computed
on words of 64 bits, where sums and products saturate, are the same. -/
theorem queries_rules (h : t ≠ []) (q g : Int) :
    (∃ hit, Word.forward? t q = .ok (some hit) ∧ t.forward? q = some hit ∧ t.ForwardRule q hit) ∧
    ∃ hit, Word.reverse? t g = .ok (some hit) ∧ t.reverse? g = some hit ∧ t.ReverseRule g hit := by
  constructor
  · obtain ⟨line, c, hforwarded, hforward⟩ := exists_forwarded h q
    exact ⟨_, by rw [Word.forward?_eq, hforward], hforward, hforwarded.rule⟩
  · obtain ⟨hit, hreverse, hrule⟩ := exists_reverseRule h g
    exact ⟨hit, by rw [Word.reverse?_eq, hreverse], hreverse, hrule⟩

/-- A segment whose product of widest count and widest stride is past a word of 64 bits. -/
def widest : Table := [.of 0 lastLine 0 lastLine none]

theorem widest_rules : widest ≠ [] ∧
    (∃ hit, Word.forward? widest 4294967294 = .ok (some hit) ∧ hit = ⟨lastLine, .exact⟩) ∧
    ∃ hit, Word.reverse? widest (-9223372036854775808) = .ok (some hit) ∧
      hit = ⟨1, .extrapolated⟩ := by
  have hne : widest ≠ [] := nofun
  obtain ⟨⟨⟨l, c⟩, hforward, -, hrule⟩, ⟨l', c'⟩, hreverse, -, hrule'⟩ :=
    queries_rules hne 4294967294 (-9223372036854775808)
  obtain rfl : c = .exact := hrule.confidence_eq.trans (by decide)
  obtain ⟨s, hs, hline⟩ := hrule.exact_line rfl
  obtain rfl : Segment.of 0 lastLine 0 lastLine none = s := Option.some.inj hs
  obtain rfl : c' = .extrapolated := hrule'.confidence_eq.trans (by decide)
  obtain ⟨s', hs', -, hline'⟩ := hrule'.ahead_line rfl
  obtain rfl := List.mem_singleton.mp hs'
  exact ⟨hne, ⟨_, hforward, congrArg (Hit.mk · _) hline⟩, _, hreverse, congrArg (Hit.mk · _) hline'⟩

end TemplateMap.Table
