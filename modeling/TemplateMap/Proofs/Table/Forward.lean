import Mathlib.Data.List.MinMax
import TemplateMap.Table

/-! The forward query on a table with segments: the two scans for neighbours keep the earliest
segment with the greatest start before the line and the earliest with the least start after it, and
a line is answered in one of three ways, each with its own confidence. -/

namespace TemplateMap

namespace Segment

variable {s : Segment} {line : Int}

/-- How far the template start of a segment is from a line. -/
def distance (s : Segment) (line : Int) : Nat := (s.template - line).natAbs

theorem start_ne_of_uncovered (h : ¬ s.covers line = true) : (s.template : Int) ≠ line := by
  intro hstart
  have hcount := s.count_pos
  exact h (covers_eq_true_iff.mpr (by omega))

/-- The line of a covered template line is computed without a bound and clamped once. -/
theorem clampLine_of_generatedAt? {g : Int} (h : s.generatedAt? line = some g) :
    clampLine g = clampLine (s.generated + (line - s.template) * s.stride) := by
  unfold generatedAt? at h
  split at h
  · rw [← Option.some.inj h, clampLine_clampWord, clampLine_add_clampWord s.generated_le]
  · cases h

end Segment

namespace Table

variable {t : Table} {line : Int} {s p n : Segment}

/-! ### The neighbours of a line -/

theorem before?_eq_argmax (t : Table) (line : Int) :
    t.before? line = (t.filter fun s => (s.template : Int) ≤ line).argmax (·.template) := by
  rw [before?, List.argmax, List.foldl_filter]
  congr
  funext best s
  cases best with
  | none => simp [List.argAux]
  | some b =>
    by_cases hkind : (s.template : Int) ≤ line <;> simp [List.argAux, hkind]

theorem after?_eq_argmin (t : Table) (line : Int) :
    t.after? line = (t.filter fun s => line ≤ (s.template : Int)).argmin (·.template) := by
  rw [after?, List.argmin, List.foldl_filter]
  congr
  funext best s
  cases best with
  | none => simp [List.argAux]
  | some b =>
    by_cases hkind : line ≤ (s.template : Int) <;> simp [List.argAux, hkind]

theorem mem_of_before? (h : t.before? line = some p) : p ∈ t ∧ (p.template : Int) ≤ line := by
  rw [before?_eq_argmax] at h
  simpa using List.argmax_mem h

theorem le_of_before? (h : t.before? line = some p) (hs : s ∈ t) (hle : (s.template : Int) ≤ line) :
    s.template ≤ p.template := by
  rw [before?_eq_argmax] at h
  exact List.le_of_mem_argmax (List.mem_filter.mpr ⟨hs, decide_eq_true hle⟩) h

theorem mem_of_after? (h : t.after? line = some n) : n ∈ t ∧ line ≤ (n.template : Int) := by
  rw [after?_eq_argmin] at h
  simpa using List.argmin_mem h

theorem le_of_after? (h : t.after? line = some n) (hs : s ∈ t) (hle : line ≤ (s.template : Int)) :
    n.template ≤ s.template := by
  rw [after?_eq_argmin] at h
  exact List.le_of_mem_argmin (List.mem_filter.mpr ⟨hs, decide_eq_true hle⟩) h

theorem before?_eq_none : t.before? line = none ↔ ∀ s ∈ t, line < (s.template : Int) := by
  rw [before?_eq_argmax, List.argmax_eq_none, List.filter_eq_nil_iff]
  simp

theorem after?_eq_none : t.after? line = none ↔ ∀ s ∈ t, (s.template : Int) < line := by
  rw [after?_eq_argmin, List.argmin_eq_none, List.filter_eq_nil_iff]
  simp

/-- Keys that order the segments alike have the same earliest least segment. -/
theorem argmin_congr {β γ : Type} [LinearOrder β] [LinearOrder γ] {f : Segment → β}
    {g : Segment → γ} (h : ∀ a ∈ t, ∀ b ∈ t, f a ≤ f b ↔ g a ≤ g b) :
    t.argmin f = t.argmin g := by
  ext m
  rw [List.argmin_eq_some_iff, List.argmin_eq_some_iff]
  refine and_congr_right fun hm => and_congr ?_ ?_
  · exact forall₂_congr fun a ha => h m hm a ha
  · exact forall₂_congr fun a ha => imp_congr_left (h a ha m hm)

/-- Past all starts, the segment before the line is the earliest of the nearest ones. -/
theorem before?_eq_nearest (hpast : ∀ s ∈ t, (s.template : Int) < line) :
    t.before? line = t.argmin (·.distance line) := by
  rw [before?_eq_argmax, List.filter_eq_self.mpr fun s hs =>
    decide_eq_true (Int.le_of_lt (hpast s hs))]
  refine (argmin_congr (g := fun s => OrderDual.toDual s.template) fun a ha b hb => ?_).symm
  have halt := hpast a ha
  have hblt := hpast b hb
  rw [OrderDual.toDual_le_toDual]
  unfold Segment.distance
  omega

/-- Ahead of all starts, the segment after the line is the earliest of the nearest ones. -/
theorem after?_eq_nearest (hahead : ∀ s ∈ t, line < (s.template : Int)) :
    t.after? line = t.argmin (·.distance line) := by
  rw [after?_eq_argmin, List.filter_eq_self.mpr fun s hs =>
    decide_eq_true (Int.le_of_lt (hahead s hs))]
  refine argmin_congr fun a ha b hb => ?_
  have halt := hahead a ha
  have hblt := hahead b hb
  unfold Segment.distance
  omega

/-! ### The ways to an answer -/

/-- The generated line of a template line before it is clamped, by the way in which the table
answers. -/
inductive Forwarded (t : Table) (line : Int) : Int → Confidence → Prop
  /-- The earliest segment that covers the line. -/
  | covered {s : Segment} (first : t.find? (·.covers line) = some s) :
      Forwarded t line (s.generated + (line - s.template) * s.stride) .exact
  /-- The neighbours on both sides. -/
  | between {p n : Segment} (uncovered : ∀ s ∈ t, ¬ s.covers line = true)
      (before : t.before? line = some p) (after : t.after? line = some n) :
      Forwarded t line (Table.between p n line) .interpolated
  /-- The earliest of the nearest segments, which all lie on one side. -/
  | beside {s : Segment} (uncovered : ∀ s ∈ t, ¬ s.covers line = true)
      (side : (∀ s ∈ t, (s.template : Int) < line) ∨ ∀ s ∈ t, line < (s.template : Int))
      (nearest : t.argmin (·.distance line) = some s) :
      Forwarded t line (s.generated + (line - s.template)) .extrapolated

theorem lt_of_uncovered (uncovered : ∀ s ∈ t, ¬ s.covers line = true)
    (before : t.before? line = some p) (after : t.after? line = some n) :
    (p.template : Int) < line ∧ line < n.template := by
  obtain ⟨hp, hple⟩ := mem_of_before? before
  obtain ⟨hn, hnle⟩ := mem_of_after? after
  have hpne := Segment.start_ne_of_uncovered (uncovered p hp)
  have hnne := Segment.start_ne_of_uncovered (uncovered n hn)
  omega

theorem forward?_of_find? (h : t.find? (·.covers line) = some s) :
    t.forward? line =
      some ⟨clampLine (s.generated + (line - s.template) * s.stride), .exact⟩ := by
  obtain ⟨hcovers, before, after, rfl, hbefore⟩ := List.find?_eq_some_iff_append.mp h
  obtain ⟨g, hg⟩ : ∃ g, s.generatedAt? line = some g := ⟨_, if_pos hcovers⟩
  have hfirst : (before ++ s :: after).findSome? (·.generatedAt? line) = some g := by
    refine List.findSome?_eq_some_iff.mpr ⟨before, s, after, rfl, hg, fun a ha => if_neg ?_⟩
    simpa using hbefore a ha
  simp only [forward?, hfirst, Segment.clampLine_of_generatedAt? hg]

theorem findSome?_of_uncovered (uncovered : ∀ s ∈ t, ¬ s.covers line = true) :
    t.findSome? (·.generatedAt? line) = none :=
  List.findSome?_eq_none_iff.mpr fun s hs => if_neg (uncovered s hs)

/-- Every line has an answer in a table with segments, in one of the three ways. -/
theorem exists_forwarded (h : t ≠ []) (line : Int) :
    ∃ g c, t.Forwarded line g c ∧ t.forward? line = some ⟨clampLine g, c⟩ := by
  cases hfind : t.find? (·.covers line) with
  | some s => exact ⟨_, _, .covered hfind, forward?_of_find? hfind⟩
  | none =>
    have uncovered : ∀ s ∈ t, ¬ s.covers line = true := List.find?_eq_none.mp hfind
    simp only [forward?, findSome?_of_uncovered uncovered]
    -- Which of the two scans find a neighbour says on which sides of the line the starts lie.
    cases hbefore : t.before? line with
    | some p =>
      cases hafter : t.after? line with
      | some n =>
        obtain ⟨hplt, hltn⟩ := lt_of_uncovered uncovered hbefore hafter
        have hstarts : p.template ≠ n.template := by omega
        exact ⟨_, _, .between uncovered hbefore hafter, if_pos hstarts⟩
      | none =>
        have hpast := after?_eq_none.mp hafter
        have hnearest := (before?_eq_nearest hpast).symm.trans hbefore
        exact ⟨_, _, .beside uncovered (.inl hpast) hnearest, rfl⟩
    | none =>
      have hahead := before?_eq_none.mp hbefore
      cases hafter : t.after? line with
      | some n =>
        have hnearest := (after?_eq_nearest hahead).symm.trans hafter
        have hback : (n.generated : Int) - (n.template - line) =
          n.generated + (line - n.template) := by omega
        refine ⟨_, _, .beside uncovered (.inr hahead) hnearest, ?_⟩
        simp only [hback]
      | none =>
        obtain ⟨s, hs⟩ := List.exists_mem_of_ne_nil t h
        have hlt := hahead s hs
        have hgt := after?_eq_none.mp hafter s hs
        omega

end Table

end TemplateMap
