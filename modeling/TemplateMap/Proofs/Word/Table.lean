import TemplateMap.Answer
import TemplateMap.Proofs.Word.Basic

/-! The queries of a table on signed words of 64 bits.  Sums that may be past a word are clamped to
one there, and nothing else is computed that is no word, so the words are those of the queries on
unbounded numbers. -/

namespace TemplateMap.Word

/-- The generated line of a covered template line. -/
def generatedAt? (s : Segment) (line : Int) : Checked (Option Int) := do
  if line < s.template then return none
  let last ← signed (s.template + s.count)
  if last ≤ line then return none
  let step ← signed (line - s.template)
  return some (clampWord (s.generated + clampWord (step * s.stride)))

theorem generatedAt?_eq (s : Segment) (line : Int) :
    generatedAt? s line = .ok (s.generatedAt? line) := by
  have htemplate := s.template_le
  have hcount := s.count_le
  unfold lastLine at htemplate hcount
  have hcovers : s.covers line = true ↔ s.template ≤ line ∧ line < s.template + s.count :=
    Segment.covers_eq_true_iff
  rw [generatedAt?, Segment.generatedAt?]
  by_cases hbefore : line < s.template
  · rw [if_pos hbefore, if_neg (mt hcovers.mp (by omega))]
    rfl
  rw [if_neg hbefore, signed_eq_ok (by omega) (by omega), Loop.ok_bind]
  by_cases hafter : (s.template + s.count : Int) ≤ line
  · rw [if_pos hafter, if_neg (mt hcovers.mp (by omega))]
    rfl
  · rw [if_neg hafter, signed_eq_ok (by omega) (by omega), if_pos (hcovers.mpr (by omega))]
    rfl

/-- The sum of a line and a distance, both the distance and the sum clamped to a word. -/
def ahead (start : Nat) (distance : Int) : Int := clampWord (start + clampWord distance)

/-- The difference of a line and a distance, both the distance and the difference clamped to a word.
-/
def behind (start : Nat) (distance : Int) : Int := clampWord (start - clampWord distance)

theorem clampLine_ahead {start : Nat} (h : start ≤ lastLine) (distance : Int) :
    clampLine (ahead start distance) = clampLine (start + distance) := by
  rw [ahead, clampLine_clampWord, clampLine_add_clampWord h]

theorem clampLine_behind {start : Nat} (h : start ≤ lastLine) (distance : Int) :
    clampLine (behind start distance) = clampLine (start - distance) := by
  rw [behind, clampLine_clampWord]
  unfold lastLine at h
  unfold clampLine clampWord lastLine
  repeat' split
  all_goals omega

/-- How far the generated line of `line` is from the start of `p`, on the way to that of `n`. -/
def offsetBetween (p n : Segment) (line : Int) : Int :=
  let share := Binary64.nearest (((line - p.template : Int) : Rat) /
    ((n.template - p.template : Int) : Rat))
  roundHalfAway (Binary64.nearest (share * ((n.generated - p.generated : Int) : Rat)))

theorem between_eq (p n : Segment) (line : Int) :
    Table.between p n line = p.generated + offsetBetween p n line := rfl

/-- The generated line of a template line. -/
def forward? (t : Table) (line : Int) : Checked (Option Hit) := do
  match ← t.findSomeM? fun s => generatedAt? s line with
  | some g => return some ⟨clampLine g, .exact⟩
  | none =>
    match t.before? line, t.after? line with
    | some p, some n =>
      if p.template ≠ n.template then
        return some ⟨clampLine (ahead p.generated (offsetBetween p n line)), .interpolated⟩
      else return some ⟨clampLine (ahead p.generated (line - p.template)), .extrapolated⟩
    | some p, none =>
      return some ⟨clampLine (ahead p.generated (line - p.template)), .extrapolated⟩
    | none, some n =>
      return some ⟨clampLine (behind n.generated (n.template - line)), .extrapolated⟩
    | none, none => return none

theorem forward?_eq (t : Table) (line : Int) : forward? t line = .ok (t.forward? line) := by
  rw [forward?, Loop.findSomeM?_eq_ok fun s _ => generatedAt?_eq s line, Loop.ok_bind,
    Table.forward?]
  cases t.findSome? fun s => s.generatedAt? line with
  | some g => rfl
  | none =>
    cases t.before? line with
    | some p =>
      have hmoved : ∀ d, clampLine (ahead p.generated d) = clampLine (p.generated + d) :=
        clampLine_ahead p.generated_le
      cases t.after? line with
      | some n =>
        simp only [hmoved, between_eq]
        split <;> rfl
      | none =>
        simp only [hmoved]
        rfl
    | none =>
      cases t.after? line with
      | some n =>
        simp only [clampLine_behind n.generated_le]
        rfl
      | none => rfl

/-- The template line as far from the start of `s` as `line` is from its generated start. -/
def offsetFrom (s : Segment) (line : Int) : Nat :=
  clampLine (ahead s.template (line - s.generated))

theorem offsetFrom_eq (s : Segment) (line : Int) : offsetFrom s line = Table.offsetFrom s line :=
  clampLine_ahead s.template_le (line - s.generated)

/-- The template line of a generated line. -/
def reverse? (t : Table) (line : Int) : Checked (Option Hit) :=
  match t.byGenerated with
  | [] => return none
  | first :: rest =>
    match (first :: rest).find? fun s => (s.generated : Int) == line with
    | some s => return some ⟨max 1 s.template, .exact⟩
    | none =>
      if line < first.generated then return some ⟨offsetFrom first line, .extrapolated⟩
      else return some ⟨offsetFrom (Table.holding line first rest) line, .interpolated⟩

theorem reverse?_eq (t : Table) (line : Int) : reverse? t line = .ok (t.reverse? line) := by
  rw [reverse?, Table.reverse?]
  cases t.byGenerated with
  | nil => rfl
  | cons first rest =>
    simp only [offsetFrom_eq]
    cases (first :: rest).find? fun s => (s.generated : Int) == line with
    | some s => rfl
    | none =>
      simp only
      split <;> rfl

/-- The answer of a table for a template line. -/
def forward (t : TierTable) (line : Int) : Checked (Except MappingError Answer) :=
  return TierTable.answer t.tier (← forward? t.table line)

/-- The answer of a table for a generated line. -/
def reverse (t : TierTable) (line : Int) : Checked (Except MappingError Answer) :=
  return TierTable.answer t.tier (← reverse? t.table line)

theorem forward_eq (t : TierTable) (line : Int) : forward t line = .ok (t.forward line) := by
  rw [forward, forward?_eq]
  rfl

theorem reverse_eq (t : TierTable) (line : Int) : reverse t line = .ok (t.reverse line) := by
  rw [reverse, reverse?_eq]
  rfl

end TemplateMap.Word
