import Mathlib.Data.List.Pairwise
import TemplateMap.LineMap
import TemplateMap.Proofs.Table.Inverse

/-! Line maps keep their order: setting a new line and filling gaps leave the template lines
strictly ascending and all lines at most `lastLine`.  So the table of a map answers a template line
of the map with its generated line, and a generated line with the first template line that has it.
-/

namespace TemplateMap

namespace Segment

variable {t g : Nat}

theorem template_single (h : t ≤ lastLine) : (single t g).template = t := Nat.min_eq_left h

theorem generated_single (h : g ≤ lastLine) : (single t g).generated = g := Nat.min_eq_left h

theorem mem_templateLines_single (h : t ≤ lastLine) {line : Nat} :
    line ∈ (single t g).templateLines ↔ line = t := by
  rw [mem_templateLines, template_single h, show (single t g).count = 1 from rfl]
  omega

end Segment

namespace LineMap

/-- The template lines ascend, and no line is past the last one. -/
structure Ordered (m : LineMap) : Prop where
  ascending : m.Pairwise fun a b => a.1 < b.1
  le_lastLine : ∀ p ∈ m, p.1 ≤ lastLine ∧ p.2 ≤ lastLine

variable {m : LineMap} {p q r : Nat × Nat} {t g maxGap : Nat}

theorem ordered_nil : Ordered [] := ⟨.nil, nofun⟩

theorem ordered_cons :
    Ordered (p :: m) ↔ (p.1 ≤ lastLine ∧ p.2 ≤ lastLine) ∧ (∀ q ∈ m, p.1 < q.1) ∧ Ordered m := by
  constructor
  · rintro ⟨hascending, hle⟩
    obtain ⟨hfirst, hrest⟩ := List.pairwise_cons.mp hascending
    obtain ⟨hp, hm⟩ := List.forall_mem_cons.mp hle
    exact ⟨hp, hfirst, hrest, hm⟩
  · rintro ⟨hp, hfirst, hrest, hm⟩
    exact ⟨List.pairwise_cons.mpr ⟨hfirst, hrest⟩, List.forall_mem_cons.mpr ⟨hp, hm⟩⟩

/-! ### Setting a new line -/

theorem mem_setNew (h : p ∈ m.setNew t g) : p = (t, g) ∨ p ∈ m := by
  induction m with
  | nil => simpa [setNew] using h
  | cons q m ih =>
    rw [setNew] at h
    split at h
    · exact List.mem_cons.mp h
    · split at h
      · exact .inr h
      · rcases List.mem_cons.mp h with rfl | h
        · exact .inr List.mem_cons_self
        · exact (ih h).imp_right (List.mem_cons_of_mem q)

theorem Ordered.setNew (h : m.Ordered) (ht : t ≤ lastLine) (hg : g ≤ lastLine) :
    Ordered (m.setNew t g) := by
  induction m with
  | nil => exact ordered_cons.mpr ⟨⟨ht, hg⟩, nofun, ordered_nil⟩
  | cons q m ih =>
    obtain ⟨hq, hfirst, hrest⟩ := ordered_cons.mp h
    rw [LineMap.setNew]
    split
    next hlt =>
      have hfirst' : ∀ r ∈ q :: m, t < r.1 :=
        List.forall_mem_cons.mpr ⟨hlt, fun r hr => Nat.lt_trans hlt (hfirst r hr)⟩
      exact ordered_cons.mpr ⟨⟨ht, hg⟩, hfirst', h⟩
    next hge =>
      split
      · exact h
      next hne =>
        refine ordered_cons.mpr ⟨hq, fun r hr => ?_, ih hrest⟩
        rcases mem_setNew hr with rfl | hr
        · simp only
          omega
        · exact hfirst r hr

/-- A new pair is set unless its template line has one. -/
theorem Ordered.mem_setNew_iff (h : m.Ordered) :
    p ∈ m.setNew t g ↔ p ∈ m ∨ p = (t, g) ∧ ∀ b, (t, b) ∉ m := by
  induction m with
  | nil => simp [LineMap.setNew]
  | cons q m ih =>
    obtain ⟨-, hfirst, hrest⟩ := ordered_cons.mp h
    obtain ⟨a, b⟩ := q
    rw [LineMap.setNew]
    split
    next hlt =>
      have hnew : ∀ b', (t, b') ∉ (a, b) :: m := by
        intro b' hmem
        rcases List.mem_cons.mp hmem with heq | hmem
        · obtain ⟨rfl, -⟩ := Prod.mk.inj heq
          exact Nat.lt_irrefl _ hlt
        · exact Nat.lt_asymm hlt (hfirst _ hmem)
      rw [List.mem_cons, and_iff_left hnew, or_comm]
    next hge =>
      split
      next heq =>
        subst heq
        exact (or_iff_left fun hnew => hnew.2 b List.mem_cons_self).symm
      next hne =>
        have hhead : ∀ b', (t, b') ≠ (a, b) := fun b' heq => hne (Prod.mk.inj heq).1
        simp only [List.mem_cons, ih hrest, hhead, false_or, or_assoc]

/-! ### Filling gaps -/

theorem mem_filling_iff : r ∈ filling maxGap p q ↔ q.1 - p.1 ≤ maxGap ∧ p.2 < q.2 ∧
    ∃ step, 0 < step ∧ step < q.1 - p.1 ∧ (p.1 + step, lineAlong p (slope p q) step) = r := by
  unfold filling
  simp only
  split
  next hfilled =>
    rw [List.mem_map, ← and_assoc, and_iff_right hfilled]
    constructor
    · rintro ⟨i, hi, rfl⟩
      rw [List.mem_range] at hi
      exact ⟨i + 1, by omega, by omega, rfl⟩
    · rintro ⟨step, hpos, hlt, rfl⟩
      obtain ⟨i, rfl⟩ := Nat.exists_eq_succ_of_ne_zero hpos.ne'
      exact ⟨i, List.mem_range.mpr (by omega), rfl⟩
  next hsparse => exact ⟨nofun, fun ⟨hgap, hrise, _⟩ => absurd ⟨hgap, hrise⟩ hsparse⟩

/-- What fills a gap lies strictly between its ends. -/
theorem mem_filling (h : r ∈ filling maxGap p q) : p.1 < r.1 ∧ r.1 < q.1 ∧ r.2 ≤ lastLine := by
  obtain ⟨-, -, step, hpos, hlt, rfl⟩ := mem_filling_iff.mp h
  exact ⟨by simp only; omega, by simp only; omega, Nat.min_le_right ..⟩

theorem pairwise_filling : (filling maxGap p q).Pairwise fun a b => a.1 < b.1 := by
  unfold filling
  simp only
  split
  · rw [List.pairwise_map]
    exact List.pairwise_lt_range.imp fun hlt => by omega
  · exact .nil

/-- A filled map begins where the map does. -/
theorem le_of_mem_densify (h : Ordered (p :: m)) (hr : r ∈ densify maxGap (p :: m)) :
    p.1 ≤ r.1 := by
  induction m generalizing p with
  | nil => rw [List.mem_singleton.mp hr]
  | cons q m ih =>
    obtain ⟨-, hfirst, hrest⟩ := ordered_cons.mp h
    have hpq : p.1 < q.1 := hfirst q List.mem_cons_self
    rcases List.mem_cons.mp hr with rfl | hr
    · exact Nat.le_refl _
    rcases List.mem_append.mp hr with hr | hr
    · exact Nat.le_of_lt (mem_filling hr).1
    · exact Nat.le_trans (Nat.le_of_lt hpq) (ih hrest hr)

theorem rel_of_pair_infix {R : Nat × Nat → Nat × Nat → Prop} (h : m.Pairwise R)
    (hnext : [p, q] <:+: m) : R p q :=
  List.pairwise_pair.mp (h.sublist hnext.sublist)

/-- What follows what in a list of two elements and more. -/
theorem pair_infix_cons_cons {a b : Nat × Nat} {rest : LineMap} :
    [a, b] <:+: p :: q :: rest ↔ (a = p ∧ b = q) ∨ [a, b] <:+: q :: rest := by
  rw [List.infix_cons_iff, List.cons_prefix_cons, List.cons_prefix_cons]
  simp

/-- A filled map has the pairs of the map and those that fill the gap between two neighbours. -/
theorem mem_densify_iff :
    r ∈ densify maxGap m ↔ r ∈ m ∨ ∃ p q, [p, q] <:+: m ∧ r ∈ filling maxGap p q := by
  induction m using densify.induct with
  | case1 => simp [densify]
  | case2 p => simp [densify, List.infix_cons_iff]
  | case3 p q rest ih =>
    rw [densify, List.mem_cons, List.mem_append, ih, List.mem_cons (l := q :: rest)]
    constructor
    · rintro (rfl | hr | hr | ⟨a, b, hnext, hr⟩)
      · exact .inl (.inl rfl)
      · exact .inr ⟨p, q, pair_infix_cons_cons.mpr (.inl ⟨rfl, rfl⟩), hr⟩
      · exact .inl (.inr hr)
      · exact .inr ⟨a, b, pair_infix_cons_cons.mpr (.inr hnext), hr⟩
    · rintro ((rfl | hr) | ⟨a, b, hnext, hr⟩)
      · exact .inl rfl
      · exact .inr (.inr (.inl hr))
      · rcases pair_infix_cons_cons.mp hnext with ⟨rfl, rfl⟩ | hnext
        · exact .inr (.inl hr)
        · exact .inr (.inr (.inr ⟨a, b, hnext, hr⟩))

theorem mem_densify_of_mem (h : p ∈ m) : p ∈ densify maxGap m := mem_densify_iff.mpr (.inl h)

theorem Ordered.densify (h : m.Ordered) : Ordered (m.densify maxGap) := by
  induction m using LineMap.densify.induct with
  | case1 => exact h
  | case2 => exact h
  | case3 p q rest ih =>
    obtain ⟨hp, hfirst, hrest⟩ := ordered_cons.mp h
    have hpq : p.1 < q.1 := hfirst q List.mem_cons_self
    obtain ⟨hq, -, -⟩ := ordered_cons.mp hrest
    have hafter : ∀ r ∈ LineMap.densify maxGap (q :: rest), q.1 ≤ r.1 :=
      fun r hr => le_of_mem_densify hrest hr
    have hfilled := ih hrest
    refine ordered_cons.mpr ⟨hp, fun r hr => ?_, ?_, fun r hr => ?_⟩
    · rcases List.mem_append.mp hr with hr | hr
      · exact (mem_filling hr).1
      · exact Nat.lt_of_lt_of_le hpq (hafter r hr)
    · refine List.pairwise_append.mpr ⟨pairwise_filling, hfilled.ascending, fun a ha b hb => ?_⟩
      exact Nat.lt_of_lt_of_le (mem_filling ha).2.1 (hafter b hb)
    · rcases List.mem_append.mp hr with hr | hr
      · obtain ⟨-, hlt, hle⟩ := mem_filling hr
        exact ⟨Nat.le_trans (Nat.le_of_lt hlt) hq.1, hle⟩
      · exact hfilled.le_lastLine r hr

/-! ### The two queries on the table of a map -/

/-- The table of a map answers a template line of the map with its generated line. -/
theorem Ordered.forward?_toSegments (h : m.Ordered) (hp : p ∈ m) (hpos : 1 ≤ p.2) :
    Table.forward? m.toSegments p.1 = some ⟨p.2, .exact⟩ := by
  have hdisjoint : m.toSegments.Pairwise fun a b => Disjoint a.templateLines b.templateLines := by
    refine List.pairwise_map.mpr (h.ascending.imp_of_mem fun ha hb hlt => ?_)
    refine Set.disjoint_left.mpr fun line hline hline' => ?_
    rw [Segment.mem_templateLines_single (h.le_lastLine _ ha).1] at hline
    rw [Segment.mem_templateLines_single (h.le_lastLine _ hb).1] at hline'
    omega
  obtain ⟨ht, hg⟩ := h.le_lastLine p hp
  have hgenerated : (Segment.single p.1 p.2).generated = p.2 := Segment.generated_single hg
  have hforward := Table.forward?_of_disjoint hdisjoint (List.mem_map_of_mem hp)
    ((Segment.mem_templateLines_single ht).mpr rfl) rfl (by rwa [hgenerated])
    (by rw [hgenerated]; exact Nat.succ_le_succ hg)
  rwa [hgenerated, Segment.template_single ht, Nat.sub_self, Nat.add_zero] at hforward

/-- The table of a map answers a generated line of the map with its first template line. -/
theorem Ordered.reverse?_toSegments (h : m.Ordered) (hp : p ∈ m) :
    ∃ first ∈ m, first.2 = p.2 ∧ (∀ q ∈ m, q.2 = p.2 → first.1 ≤ q.1) ∧
      Table.reverse? m.toSegments p.2 = some ⟨max 1 first.1, .exact⟩ := by
  obtain ⟨first, hfind⟩ : ∃ first, m.find? (·.2 = p.2) = some first :=
    Option.isSome_iff_exists.mp (List.find?_isSome.mpr ⟨p, hp, decide_eq_true rfl⟩)
  obtain ⟨hsame, before, after, rfl, hbefore⟩ := List.find?_eq_some_iff_append.mp hfind
  have hmem : first ∈ before ++ first :: after := List.mem_append_right _ List.mem_cons_self
  have hstart : ∀ q ∈ before ++ first :: after, (Segment.single q.1 q.2).generated = q.2 :=
    fun q hq => Segment.generated_single (h.le_lastLine q hq).2
  refine ⟨first, hmem, of_decide_eq_true hsame, fun q hq hq' => ?_, ?_⟩
  · rcases List.mem_append.mp hq with hq | hq
    · exact absurd hq' (by simpa using hbefore q hq)
    rcases List.mem_cons.mp hq with rfl | hq
    · exact Nat.le_refl _
    · exact Nat.le_of_lt ((List.pairwise_cons.mp (List.pairwise_append.mp h.ascending).2.1).1 q hq)
  · have hsegment : (toSegments (before ++ first :: after)).find? (·.generated = p.2) =
        some (Segment.single first.1 first.2) := by
      rw [toSegments, List.map_append, List.map_cons, List.find?_eq_some_iff_append]
      refine ⟨by rwa [hstart first hmem], _, _, rfl, List.forall_mem_map.mpr fun q hq => ?_⟩
      rw [hstart q (List.mem_append_left _ hq)]
      exact hbefore q hq
    rw [Table.reverse?_of_find? hsegment, Segment.template_single (h.le_lastLine _ hmem).1]

/-- A generated line goes back to a template line that has it exactly if no earlier one does, where
line 0 is answered as line 1. -/
theorem Ordered.reverse?_eq_iff (h : m.Ordered) (hp : (t, g) ∈ m) (hpos : 1 ≤ t) :
    Table.reverse? m.toSegments g = some ⟨t, .exact⟩ ↔ ∀ p ∈ m, p.2 = g → t ≤ max 1 p.1 := by
  obtain ⟨first, hfirst, hsame, hleast, hreverse⟩ := h.reverse?_toSegments hp
  have hle : first.1 ≤ t := hleast _ hp rfl
  have hanswer : Table.reverse? m.toSegments g = some ⟨t, .exact⟩ ↔ max 1 first.1 = t := by
    rw [hreverse]
    simp
  rw [hanswer]
  constructor
  · intro heq p hp hp'
    have := hleast p hp hp'
    omega
  · intro h
    have := h first hfirst hsame
    omega

end LineMap

end TemplateMap
