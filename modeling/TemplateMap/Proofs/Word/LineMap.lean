import TemplateMap.Proofs.Extraction.Comments
import TemplateMap.Proofs.Word.Basic

/-! The line map of a source's annotations on machine words: template lines are words of 32 bits
without a sign, so their differences need the order of the map. -/

namespace TemplateMap.Word

/-- The template lines that the comments of a generated source announce. -/
def annotations (template : Template) (generated : Text) : Checked LineMap :=
  generated.lines.zipIdx.foldlM (fun m (line, index) => do
    match Annotation.ofLine? template line with
    | some t => return m.setNew t (min (← add Config.maxWord index 2) lastLine)
    | none => return m) []

theorem annotations_eq (template : Template) {generated : Text}
    (h : generated.lines.length ≤ Config.maxHalfWord) :
    annotations template generated = .ok (Extractor.annotations template generated) := by
  refine Loop.foldlM_eq_ok (fun line hline m => ?_) []
  obtain ⟨line, index⟩ := line
  have hindex : index < generated.lines.length := by
    simpa using (List.mem_zipIdx hline).2.1
  have hsum : index + 2 ≤ Config.maxWord := by
    unfold Config.maxHalfWord at h
    unfold Config.maxWord
    omega
  simp only
  cases Annotation.ofLine? template line with
  | none => rfl
  | some t =>
    simp only [add_eq_ok hsum]
    rfl

/-- The pairs between `p` and `q`. -/
def filling (maxGap : Nat) (p q : Nat × Nat) : Checked (List (Nat × Nat)) := do
  let gap ← sub q.1 p.1
  if gap ≤ maxGap ∧ p.2 < q.2 then
    (List.range (gap - 1)).mapM fun i =>
      return (← add lastLine p.1 (i + 1), LineMap.lineAlong p (LineMap.slope p q) (i + 1))
  else return []

theorem filling_eq {p q : Nat × Nat} (h : p.1 < q.1) (hq : q.1 ≤ lastLine) (maxGap : Nat) :
    filling maxGap p q = .ok (LineMap.filling maxGap p q) := by
  rw [filling, sub_eq_ok (Nat.le_of_lt h), Loop.ok_bind, LineMap.filling]
  simp only
  split
  · refine Loop.mapM_eq_ok fun i hi => ?_
    have hsum : p.1 + (i + 1) ≤ lastLine := by
      rw [List.mem_range] at hi
      omega
    rw [add_eq_ok hsum]
    rfl
  · rfl

/-- The map with all gaps of at most `maxGap` filled. -/
def densify (maxGap : Nat) : LineMap → Checked LineMap
  | [] => return []
  | [p] => return [p]
  | p :: q :: rest => do
    let between ← filling maxGap p q
    return p :: (between ++ (← densify maxGap (q :: rest)))

theorem densify_eq {m : LineMap} (h : m.Ordered) (maxGap : Nat) :
    densify maxGap m = .ok (m.densify maxGap) := by
  induction m using LineMap.densify.induct with
  | case1 => rfl
  | case2 => rfl
  | case3 p q rest ih =>
    obtain ⟨-, hfirst, hrest⟩ := LineMap.ordered_cons.mp h
    obtain ⟨hq, -, -⟩ := LineMap.ordered_cons.mp hrest
    rw [densify, filling_eq (hfirst q List.mem_cons_self) hq.1, Loop.ok_bind, ih hrest]
    rfl

end TemplateMap.Word
