import Mathlib.Data.List.Sort
import TemplateMap.Proofs.Table.Inverse

/-! Tables with the same segments in another order.  The order says only which of several segments
answers: where no two share a template line, both scans of the forward query pick a segment that its
lines alone determine, and where no two share a generated start, sorting gives the same list. -/

namespace TemplateMap.Table

variable {t t' : Table} {line : Int} {s p n : Segment}

theorem Apart.perm (h : t.Apart) (hperm : t.Perm t') : t'.Apart :=
  List.Pairwise.perm h hperm fun apart => apart.symm

theorem Apart.eq_of_start (h : t.Apart) (hp : p ∈ t) (hn : n ∈ t)
    (hstart : p.template = n.template) : p = n := by
  have hpcount := p.count_pos
  have hncount := n.count_pos
  have hpcovers : p.covers p.template = true := Segment.covers_eq_true_iff.mpr (by omega)
  have hncovers : n.covers p.template = true := Segment.covers_eq_true_iff.mpr (by omega)
  exact h.eq_of_covers hp hn hpcovers hncovers

/-- So the scan for the last start before a line finds the segment that has it. -/
theorem Apart.before?_eq_some_iff (h : t.Apart) :
    t.before? line = some p ↔
      p ∈ t ∧ (p.template : Int) ≤ line ∧
        ∀ s ∈ t, (s.template : Int) ≤ line → s.template ≤ p.template := by
  constructor
  · intro hbefore
    obtain ⟨hp, hle⟩ := mem_of_before? hbefore
    exact ⟨hp, hle, fun s hs => le_of_before? hbefore hs⟩
  · rintro ⟨hp, hle, hmax⟩
    obtain ⟨x, hx⟩ : ∃ x, t.before? line = some x := by
      refine Option.ne_none_iff_exists'.mp fun hnone => ?_
      have hlt := before?_eq_none.mp hnone p hp
      omega
    obtain ⟨hxmem, hxle⟩ := mem_of_before? hx
    rw [hx, h.eq_of_start hxmem hp (Nat.le_antisymm (hmax x hxmem hxle) (le_of_before? hx hp hle))]

theorem Apart.after?_eq_some_iff (h : t.Apart) :
    t.after? line = some n ↔
      n ∈ t ∧ line ≤ (n.template : Int) ∧
        ∀ s ∈ t, line ≤ (s.template : Int) → n.template ≤ s.template := by
  constructor
  · intro hafter
    obtain ⟨hn, hle⟩ := mem_of_after? hafter
    exact ⟨hn, hle, fun s hs => le_of_after? hafter hs⟩
  · rintro ⟨hn, hle, hmin⟩
    obtain ⟨x, hx⟩ : ∃ x, t.after? line = some x := by
      refine Option.ne_none_iff_exists'.mp fun hnone => ?_
      have hlt := after?_eq_none.mp hnone n hn
      omega
    obtain ⟨hxmem, hxle⟩ := mem_of_after? hx
    rw [hx, h.eq_of_start hxmem hn (Nat.le_antisymm (le_of_after? hx hn hle) (hmin x hxmem hxle))]

theorem Apart.forward?_perm (h : t.Apart) (hperm : t.Perm t') (line : Int) :
    t.forward? line = t'.forward? line := by
  have h' := h.perm hperm
  have hmem := fun s => hperm.mem_iff (a := s)
  cases hfind : t.find? (·.covers line) with
  | some s =>
    have hfind' : t'.find? (·.covers line) = some s := by
      rw [h'.find?_eq_some_iff, ← hmem, ← h.find?_eq_some_iff, hfind]
    rw [forward?_of_find? hfind, forward?_of_find? hfind']
  | none =>
    have uncovered : ∀ s ∈ t, ¬ s.covers line = true := List.find?_eq_none.mp hfind
    have uncovered' : ∀ s ∈ t', ¬ s.covers line = true := fun s hs =>
      uncovered s ((hmem s).mpr hs)
    have hbefore : t.before? line = t'.before? line := by
      ext p
      simp only [h.before?_eq_some_iff, h'.before?_eq_some_iff, hmem]
    have hafter : t.after? line = t'.after? line := by
      ext n
      simp only [h.after?_eq_some_iff, h'.after?_eq_some_iff, hmem]
    simp only [forward?, findSome?_of_uncovered uncovered, findSome?_of_uncovered uncovered',
      hbefore, hafter]

/-- There is one way to sort segments that differ in their generated starts. -/
theorem byGenerated_perm (h : t.Pairwise fun a b => a.generated ≠ b.generated)
    (hperm : t.Perm t') : t.byGenerated = t'.byGenerated := by
  have hsorted : t.byGenerated.Perm t'.byGenerated :=
    (List.mergeSort_perm _ _).trans (hperm.trans (List.mergeSort_perm _ _).symm)
  refine hsorted.eq_of_pairwise (fun a b ha hb hab hba => ?_) (byGenerated_sorted t)
    (byGenerated_sorted t')
  exact eq_of_generated h (mem_byGenerated.mp ha) (hperm.mem_iff.mpr (mem_byGenerated.mp hb))
    (Nat.le_antisymm hab hba)

/-- The order of a table does not matter to forward answers if no two segments share a template
line, nor to reverse answers if no two share a generated start. -/
theorem queries_perm (hperm : t.Perm t') :
    (t.Apart → ∀ q, t.forward? q = t'.forward? q) ∧
    ((t.Pairwise fun a b => a.generated ≠ b.generated) → ∀ g, t.reverse? g = t'.reverse? g) := by
  refine ⟨fun h q => h.forward?_perm hperm q, fun h g => ?_⟩
  simp only [reverse?, byGenerated_perm h hperm]

/-- Three segments that touch one another give the same answers in the opposite order. -/
theorem touching_queries_perm : touching.Perm touching.reverse ∧ touching.Apart ∧
    (touching.Pairwise fun a b => a.generated ≠ b.generated) ∧
    (∀ q, touching.forward? q = forward? touching.reverse q) ∧
    ∀ g, touching.reverse? g = reverse? touching.reverse g := by
  have hperm : touching.Perm touching.reverse := (List.reverse_perm touching).symm
  have hdistinct : touching.Pairwise fun a b => a.generated ≠ b.generated := by decide
  obtain ⟨forward, reverse⟩ := queries_perm hperm
  exact ⟨hperm, touching_oneToOne.template_disjoint, hdistinct,
    forward touching_oneToOne.template_disjoint, reverse hdistinct⟩

end TemplateMap.Table
