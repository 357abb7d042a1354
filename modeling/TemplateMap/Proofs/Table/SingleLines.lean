import TemplateMap.Proofs.Table.Forward
import TemplateMap.Proofs.Table.SharedStart

/-! Tables of single lines, in any order and with any repetitions.  A template line that starts a
segment goes to the generated line of the earliest one, and comes back exactly if no segment before
that has the same generated line. -/

namespace TemplateMap.Table

/-- Every segment has one line, and no line is line 0. -/
structure SingleLines (t : Table) : Prop where
  count : ∀ s ∈ t, s.count = 1
  template_pos : ∀ s ∈ t, 1 ≤ s.template
  generated_pos : ∀ s ∈ t, 1 ≤ s.generated

variable {t : Table} {s : Segment} {q : Nat}

theorem SingleLines.covers_iff (h : t.SingleLines) (hs : s ∈ t) :
    s.covers q = true ↔ s.template = q := by
  have hcount := h.count s hs
  rw [Segment.covers_eq_true_iff]
  omega

/-- The earliest segment that starts at a template line gives its generated line. -/
theorem SingleLines.forward?_eq (h : t.SingleLines) (hfind : t.find? (·.template = q) = some s) :
    t.forward? q = some ⟨s.generated, .exact⟩ := by
  have hs := List.mem_of_find?_eq_some hfind
  have hstart : s.template = q := by simpa using List.find?_some hfind
  have hsame : t.filter (·.covers q) = t.filter (·.template = q) :=
    List.filter_congr fun a ha => Bool.eq_iff_iff.mpr
      ((h.covers_iff ha).trans decide_eq_true_iff.symm)
  have hcovers : t.find? (·.covers q) = some s := by
    rw [← List.head?_filter, hsame, List.head?_filter, hfind]
  rw [forward?_of_find? hcovers, hstart, Int.sub_self, Int.zero_mul, Int.add_zero,
    clampLine_ofNat (h.generated_pos s hs) s.generated_le]

/-- The earliest segment that starts at a generated line gives its template line. -/
theorem SingleLines.reverse?_eq (h : t.SingleLines) (hfind : t.find? (·.generated = q) = some s) :
    t.reverse? q = some ⟨s.template, .exact⟩ := by
  rw [reverse?_of_find? hfind,
    Nat.max_eq_right (h.template_pos s (List.mem_of_find?_eq_some hfind))]

/-- A template line goes to the generated line of the earliest segment that starts at it, and comes
back from there exactly if that segment is also the earliest with its generated line. -/
theorem SingleLines.comesBack_iff (h : t.SingleLines) (hq : ∃ s ∈ t, s.template = q) :
    ∃ before s after back, t = before ++ s :: after ∧
      (s.template = q ∧ ∀ a ∈ before, a.template ≠ q) ∧
      t.forward? q = some ⟨s.generated, .exact⟩ ∧ t.reverse? s.generated = some ⟨back, .exact⟩ ∧
      (back = q ↔ ∀ a ∈ before, a.generated ≠ s.generated) := by
  obtain ⟨s, hfind⟩ : ∃ s, t.find? (·.template = q) = some s :=
    Option.isSome_iff_exists.mp (List.find?_isSome.mpr (by simpa using hq))
  obtain ⟨x, hback⟩ : ∃ x, t.find? (·.generated = s.generated) = some x :=
    Option.isSome_iff_exists.mp
      (List.find?_isSome.mpr ⟨s, List.mem_of_find?_eq_some hfind, decide_eq_true rfl⟩)
  have hforward := h.forward?_eq hfind
  have hreverse := h.reverse?_eq hback
  obtain ⟨hstart, before, after, rfl, hbefore⟩ := List.find?_eq_some_iff_append.mp hfind
  have hstart : s.template = q := of_decide_eq_true hstart
  have hbefore : ∀ a ∈ before, a.template ≠ q := by simpa using hbefore
  refine ⟨before, s, after, x.template, rfl, ⟨hstart, hbefore⟩, hforward, hreverse, ?_⟩
  -- The line comes back from a segment before `s`, or from `s` itself if none has its line.
  rw [List.find?_append] at hback
  cases hearlier : before.find? (·.generated = s.generated) with
  | none =>
    have hnone : ∀ a ∈ before, a.generated ≠ s.generated := by
      simpa using List.find?_eq_none.mp hearlier
    rw [hearlier, Option.none_or, List.find?_cons_of_pos (by simp)] at hback
    obtain rfl := Option.some.inj hback
    exact iff_of_true hstart hnone
  | some y =>
    rw [hearlier, Option.some_or] at hback
    obtain rfl := Option.some.inj hback
    have hy := List.mem_of_find?_eq_some hearlier
    have hsame : y.generated = s.generated := by simpa using List.find?_some hearlier
    exact iff_of_false (hbefore y hy) fun hnone => hnone y hy hsame

theorem twoAtOnce_singleLines : twoAtOnce.SingleLines := ⟨by decide, by decide, by decide⟩

/-- The second of two template lines at one generated line does not come back. -/
theorem twoAtOnce_comesBack : twoAtOnce.SingleLines ∧ (∃ s ∈ twoAtOnce, s.template = 3) ∧
    ∃ (s : Segment) (back : Nat), twoAtOnce.forward? (3 : Nat) = some ⟨s.generated, .exact⟩ ∧
      twoAtOnce.reverse? s.generated = some ⟨back, .exact⟩ ∧ back ≠ 3 := by
  have hstart : ∃ s ∈ twoAtOnce, s.template = 3 := ⟨.single 3 50, by decide, by decide⟩
  obtain ⟨before, s, after, back, hsplit, ⟨hs, -⟩, hforward, hreverse, hback⟩ :=
    twoAtOnce_singleLines.comesBack_iff hstart
  refine ⟨twoAtOnce_singleLines, hstart, s, back, hforward, hreverse, fun hthree => ?_⟩
  cases before with
  | nil =>
    obtain rfl := (List.cons.inj hsplit).1
    exact absurd hs (by decide)
  | cons a before =>
    obtain ⟨rfl, hrest⟩ := List.cons.inj hsplit
    have hmem : s ∈ [Segment.single 3 50] := hrest ▸ List.mem_append_right _ List.mem_cons_self
    obtain rfl := List.mem_singleton.mp hmem
    exact hback.mp hthree _ List.mem_cons_self rfl

end TemplateMap.Table
