/-! Line numbers: the bounds that the lines of a table and of an answer keep to. -/

namespace TemplateMap

/-- The greatest line number. -/
def lastLine : Nat := 4294967295

/-- The line number nearest to `n` among 1 to `lastLine`. -/
def clampLine (n : Int) : Nat :=
  if n < 1 then 1 else if (lastLine : Int) < n then lastLine else n.toNat

/-- The number nearest to `n` that a signed word of 64 bits holds. -/
def clampWord (n : Int) : Int :=
  if n < -9223372036854775808 then -9223372036854775808
  else if 9223372036854775807 < n then 9223372036854775807
  else n

theorem one_le_clampLine (n : Int) : 1 ≤ clampLine n := by
  unfold clampLine lastLine
  split
  · exact Nat.le_refl 1
  · split <;> omega

theorem clampLine_le (n : Int) : clampLine n ≤ lastLine := by
  unfold clampLine lastLine
  split
  · omega
  · split <;> omega

/-- A line number between the bounds stands for itself. -/
theorem clampLine_ofNat {n : Nat} (low : 1 ≤ n) (high : n ≤ lastLine) : clampLine n = n := by
  unfold clampLine
  split
  · omega
  · split <;> omega

/-- From the first line on, only the last line bounds a line number. -/
theorem clampLine_eq_min {n : Int} (h : 1 ≤ n) : (clampLine n : Int) = min n lastLine := by
  unfold clampLine lastLine
  split
  · omega
  · split <;> omega

theorem clampLine_mono {m n : Int} (h : m ≤ n) : clampLine m ≤ clampLine n := by
  unfold clampLine lastLine
  repeat' split
  all_goals omega

/-- Clamping to a word first does not change the line. -/
theorem clampLine_clampWord (n : Int) : clampLine (clampWord n) = clampLine n := by
  unfold clampLine clampWord lastLine
  repeat' split
  all_goals omega

/-- Nor does clamping a distance to a word, before it is added to a line number. -/
theorem clampLine_add_clampWord {start : Nat} (h : start ≤ lastLine) (distance : Int) :
    clampLine (start + clampWord distance) = clampLine (start + distance) := by
  unfold lastLine at h
  unfold clampLine clampWord lastLine
  repeat' split
  all_goals omega

end TemplateMap
