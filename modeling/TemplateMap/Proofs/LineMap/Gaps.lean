import Mathlib.Data.List.Chain
import TemplateMap.Proofs.LineMap.Filling
import TemplateMap.Proofs.Word.LineMap

/-! Which gaps of a map are filled, and how.  The filled map keeps the lines of the map, and has
those between two neighbours exactly if their gap is small enough and their generated lines ascend.
What is filled has no gap left, and what is left open stays open, so filling again changes nothing.
Across a filled gap the generated lines go up from its start to its end. -/

namespace TemplateMap.LineMap

variable {m : LineMap} {p q r : Nat × Nat} {t g maxGap : Nat}

/-- The gap from `p` to `q` is small enough to be filled, and the generated lines ascend. -/
def Filled (maxGap : Nat) (p q : Nat × Nat) : Prop := q.1 - p.1 ≤ maxGap ∧ p.2 < q.2

/-! ### Lines looked up -/

theorem Ordered.lookup_eq_some_iff (h : m.Ordered) : m.lookup t = some g ↔ (t, g) ∈ m := by
  rw [List.lookup_eq_some_iff]
  constructor
  · rintro ⟨before, after, rfl, -⟩
    exact List.mem_append_right _ List.mem_cons_self
  · intro hmem
    obtain ⟨before, after, rfl⟩ := List.append_of_mem hmem
    refine ⟨before, after, rfl, fun p hp => ?_⟩
    -- No earlier line of the map has the template line, since they ascend.
    have hlt := (List.pairwise_append.mp h.ascending).2.2 p hp (t, g) List.mem_cons_self
    exact bne_iff_ne.mpr hlt.ne'

theorem Ordered.isSome_lookup_iff (h : m.Ordered) :
    (m.lookup t).isSome = true ↔ ∃ g, (t, g) ∈ m := by
  rw [Option.isSome_iff_exists]
  exact exists_congr fun g => h.lookup_eq_some_iff

/-! ### What fills a gap -/

theorem exists_mem_filling_iff :
    (∃ g, (t, g) ∈ filling maxGap p q) ↔ p.1 < t ∧ t < q.1 ∧ Filled maxGap p q := by
  constructor
  · rintro ⟨g, hmem⟩
    obtain ⟨hlow, hhigh, -⟩ := mem_filling hmem
    obtain ⟨hgap, hrise, -⟩ := mem_filling_iff.mp hmem
    exact ⟨hlow, hhigh, hgap, hrise⟩
  · rintro ⟨hlow, hhigh, hgap, hrise⟩
    obtain ⟨step, rfl⟩ := Nat.exists_eq_add_of_lt hlow
    exact ⟨_, mem_filling_iff.mpr ⟨hgap, hrise, step + 1, by omega, by omega, rfl⟩⟩

theorem filling_of_filled (h : Filled maxGap p q) : filling maxGap p q =
    (List.range (q.1 - p.1 - 1)).map fun i => (p.1 + (i + 1), lineAlong p (slope p q) (i + 1)) :=
  if_pos h

theorem filling_of_not_filled (h : ¬Filled maxGap p q) : filling maxGap p q = [] := if_neg h

theorem filling_of_next (h : q.1 = p.1 + 1) : filling maxGap p q = [] := by
  refine List.eq_nil_iff_forall_not_mem.mpr fun r hr => ?_
  obtain ⟨hlow, hhigh, -⟩ := mem_filling hr
  omega

/-- A filled gap has all its template lines. -/
theorem map_fst_filling (h : Filled maxGap p q) (hlt : p.1 < q.1) :
    (p :: (filling maxGap p q ++ [q])).map Prod.fst = List.range' p.1 (q.1 - p.1 + 1) := by
  obtain ⟨inside, hq⟩ := Nat.exists_eq_add_of_lt hlt
  have hwidth : q.1 - p.1 = inside + 1 := by omega
  have hfilling : (filling maxGap p q).map Prod.fst = List.range' (p.1 + 1) inside := by
    rw [filling_of_filled h, List.map_map, hwidth, Nat.add_sub_cancel, List.range'_eq_map_range]
    refine List.map_congr_left fun i _ => ?_
    simp only [Function.comp_apply]
    omega
  rw [List.map_cons, List.map_append, hfilling, hwidth, List.range'_succ, List.range'_1_concat,
    List.map_singleton, hq, Nat.add_right_comm]

/-! ### Filling again -/

/-- Nothing fills the gap between two neighbours. -/
def Closed (maxGap : Nat) (m : LineMap) : Prop :=
  m.IsChain fun p q => filling maxGap p q = []

theorem Closed.densify_eq (h : Closed maxGap m) : m.densify maxGap = m := by
  induction m using LineMap.densify.induct with
  | case1 => rfl
  | case2 => rfl
  | case3 p q rest ih =>
    obtain ⟨hgap, hrest⟩ := List.isChain_cons_cons.mp h
    rw [densify, hgap, ih hrest, List.nil_append]

theorem closed_filling (hlt : p.1 < q.1) : Closed maxGap (p :: (filling maxGap p q ++ [q])) := by
  by_cases h : Filled maxGap p q
  -- The template lines of a filled gap go up by one, so nothing lies between two of them.
  · have hsteps := List.isChain_range' p.1 (q.1 - p.1 + 1) 1
    rw [← map_fst_filling h hlt, List.isChain_map] at hsteps
    exact hsteps.imp fun a b hab => filling_of_next hab
  · rw [filling_of_not_filled h]
    exact List.isChain_pair.mpr (filling_of_not_filled h)

theorem exists_densify_cons (maxGap : Nat) (p : Nat × Nat) (m : LineMap) :
    ∃ rest, densify maxGap (p :: m) = p :: rest := by
  cases m with
  | nil => exact ⟨[], rfl⟩
  | cons q m => exact ⟨_, rfl⟩

theorem Ordered.closed_densify (h : m.Ordered) : Closed maxGap (m.densify maxGap) := by
  induction m using LineMap.densify.induct with
  | case1 => exact List.isChain_nil
  | case2 => exact List.isChain_singleton _
  | case3 p q rest ih =>
    obtain ⟨-, hfirst, hrest⟩ := ordered_cons.mp h
    have hclosed := ih hrest
    obtain ⟨after, hafter⟩ := exists_densify_cons maxGap q rest
    rw [hafter] at hclosed
    rw [LineMap.densify, hafter]
    -- The filled gap ends where the rest of the filled map begins.
    exact List.isChain_cons_split.mpr ⟨closed_filling (hfirst q List.mem_cons_self), hclosed⟩

/-- What filling does to a map: it keeps each line, adds the lines between two neighbours exactly if
their gap is small enough and their generated lines ascend, stays among the template lines there
are, and leaves nothing to fill. -/
theorem Ordered.densify_gaps (h : m.Ordered) (maxGap : Nat) :
    (m.densify maxGap).Ordered ∧
    (∀ t g, m.lookup t = some g → (m.densify maxGap).lookup t = some g) ∧
    (∀ t, m.lookup t = none → (((m.densify maxGap).lookup t).isSome = true ↔
      ∃ p q, [p, q] <:+: m ∧ p.1 < t ∧ t < q.1 ∧ Filled maxGap p q)) ∧
    Word.densify maxGap m = .ok (m.densify maxGap) ∧
    (m.densify maxGap).densify maxGap = m.densify maxGap := by
  have hfilled : (m.densify maxGap).Ordered := h.densify
  refine ⟨hfilled, fun t g hmem => ?_, fun t hnew => ?_, Word.densify_eq h maxGap,
    h.closed_densify.densify_eq⟩
  · rw [h.lookup_eq_some_iff] at hmem
    exact hfilled.lookup_eq_some_iff.mpr (mem_densify_of_mem hmem)
  · have hout : ∀ g, (t, g) ∉ m := fun g hmem =>
      Option.some_ne_none g ((h.lookup_eq_some_iff.mpr hmem).symm.trans hnew)
    rw [hfilled.isSome_lookup_iff]
    constructor
    · rintro ⟨g, hmem⟩
      obtain ⟨p, q, hnext, hbetween⟩ := (mem_densify_iff.mp hmem).resolve_left (hout g)
      exact ⟨p, q, hnext, exists_mem_filling_iff.mp ⟨g, hbetween⟩⟩
    · rintro ⟨p, q, hnext, hgap⟩
      obtain ⟨g, hbetween⟩ := exists_mem_filling_iff.mpr hgap
      exact ⟨g, mem_densify_iff.mpr (.inr ⟨p, q, hnext, hbetween⟩)⟩

/-- A small gap, one whose generated lines fall, and a wide one. -/
def mixedGaps : LineMap := [(10, 100), (14, 108), (20, 90), (60, 200)]

theorem mixedGaps_ordered : mixedGaps.Ordered := ⟨by decide, by decide⟩

theorem mixedGaps_densify : mixedGaps.Ordered ∧
    (mixedGaps.densify 20).lookup 14 = some 108 ∧
    ((mixedGaps.densify 20).lookup 12).isSome = true ∧
    (mixedGaps.densify 20).densify 20 = mixedGaps.densify 20 := by
  obtain ⟨-, hkept, hnew, -, hagain⟩ := mixedGaps_ordered.densify_gaps 20
  have hgap : [(10, 100), (14, 108)] <:+: mixedGaps := by decide
  exact ⟨mixedGaps_ordered, hkept 14 108 (by decide),
    (hnew 12 (by decide)).mpr ⟨_, _, hgap, by decide, by decide, by decide, by decide⟩, hagain⟩

/-! ### Across a filled gap -/

/-- The generated line of a template line from `p` to `q` after the gap between them is filled. -/
def lineBetween (p q : Nat × Nat) (t : Nat) : Nat :=
  if t = q.1 then q.2 else lineAlong p (slope p q) (t - p.1)

theorem lineBetween_start (hlt : p.1 < q.1) (hp : p.2 ≤ lastLine) : lineBetween p q p.1 = p.2 := by
  rw [lineBetween, if_neg hlt.ne, Nat.sub_self, lineAlong_zero hp]

theorem lineBetween_end (p q : Nat × Nat) : lineBetween p q q.1 = q.2 := if_pos rfl

theorem lineBetween_monotoneOn (hq : q.1 ≤ lastLine ∧ q.2 ≤ lastLine) (hrise : p.2 < q.2) :
    MonotoneOn (lineBetween p q) (Set.Icc p.1 q.1) := by
  rintro t ⟨hlow, hhigh⟩ t' ⟨-, hhigh'⟩ hle
  unfold lineBetween
  rcases hhigh'.eq_or_lt with rfl | hlt'
  · rw [if_pos rfl]
    split
    · exact le_rfl
    · exact lineAlong_slope_le (by omega) hq.2 hrise (by omega)
  · rw [if_neg (by omega), if_neg (by omega)]
    exact lineAlong_mono (slope_nonneg p q) (by omega)

theorem mem_densify_lineBetween (hnext : [p, q] <:+: m) (hfilled : Filled maxGap p q)
    (hp : p.2 ≤ lastLine) (ht : t ∈ Set.Icc p.1 q.1) :
    (t, lineBetween p q t) ∈ m.densify maxGap := by
  rcases ht.2.eq_or_lt with rfl | hhigh
  · rw [lineBetween_end]
    exact mem_densify_of_mem (hnext.subset (by simp))
  · rcases ht.1.eq_or_lt with rfl | hlow
    · rw [lineBetween_start hhigh hp]
      exact mem_densify_of_mem (hnext.subset (by simp))
    · refine mem_densify_iff.mpr (.inr ⟨p, q, hnext, mem_filling_iff.mpr
        ⟨hfilled.1, hfilled.2, t - p.1, by omega, by omega, ?_⟩⟩)
      rw [lineBetween, if_neg hhigh.ne, Nat.add_sub_cancel' hlow.le]

/-- Across a filled gap the generated lines do not step back, and go from the line at its start to
the one at its end, however wide the gap is. -/
theorem Ordered.densify_monotoneOn (h : m.Ordered) (hnext : [p, q] <:+: m)
    (hfilled : Filled maxGap p q) : ∃ line : Nat → Nat,
      (∀ t ∈ Set.Icc p.1 q.1, (m.densify maxGap).lookup t = some (line t)) ∧
      MonotoneOn line (Set.Icc p.1 q.1) ∧ line p.1 = p.2 ∧ line q.1 = q.2 := by
  have hp := (h.le_lastLine p (hnext.subset (by simp))).2
  have hq := h.le_lastLine q (hnext.subset (by simp))
  have hlt : p.1 < q.1 := rel_of_pair_infix h.ascending hnext
  have hall : (m.densify maxGap).Ordered := h.densify
  exact ⟨lineBetween p q, fun t ht => hall.lookup_eq_some_iff.mpr
      (mem_densify_lineBetween hnext hfilled hp ht),
    lineBetween_monotoneOn hq hfilled.2, lineBetween_start hlt hp, lineBetween_end p q⟩

/-- A rise by one line over the widest gap there is. -/
def widestGap : LineMap := [(0, 1), (4294967295, 2)]

theorem widestGap_densify : widestGap.Ordered ∧ [(0, 1), (4294967295, 2)] <:+: widestGap ∧
    Filled 4294967295 (0, 1) (4294967295, 2) ∧ ∃ line : Nat → Nat,
      MonotoneOn line (Set.Icc 0 4294967295) ∧ line 0 = 1 ∧ line 4294967295 = 2 := by
  have hordered : widestGap.Ordered := ⟨by decide, by decide⟩
  have hnext : [(0, 1), (4294967295, 2)] <:+: widestGap := List.infix_rfl
  have hfilled : Filled 4294967295 (0, 1) (4294967295, 2) := ⟨by decide, by decide⟩
  obtain ⟨line, -, hmono, hstart, hend⟩ := hordered.densify_monotoneOn hnext hfilled
  exact ⟨hordered, hnext, hfilled, line, hmono, hstart, hend⟩

end TemplateMap.LineMap
