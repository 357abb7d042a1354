import Mathlib.Data.List.Chain
import TemplateMap.Proofs.Table.Between
import TemplateMap.Proofs.Table.Forward

/-! Forward answers on tables whose segments are listed in the order of their lines, on the template
side and on the generated one.  A start is the least answer from its line on and the greatest one up
to it, so no two lines with a start between them are answered in the wrong order.  Between two
starts an answer can step back in one place only: behind the last line of a segment, where it is
counted from the segment's start and not from its end. -/

namespace TemplateMap

namespace Segment

variable {s : Segment} {line line' : Int}

/-- The generated line of the last template line of a segment. -/
def lastGenerated (s : Segment) : Int := s.generated + (s.count - 1) * s.stride

/-- The generated line at the place of `line`, counted on from the start of a segment by its
stride. -/
def strided (s : Segment) (line : Int) : Int := s.generated + (line - s.template) * s.stride

theorem strided_mono (h : line ≤ line') : s.strided line ≤ s.strided line' := by
  have hstep := Int.mul_le_mul_of_nonneg_right (Int.sub_le_sub_right h s.template)
    (Int.natCast_nonneg s.stride)
  unfold strided
  omega

theorem strided_start (s : Segment) : s.strided s.template = s.generated := by
  rw [strided, Int.sub_self, Int.zero_mul, Int.add_zero]

theorem strided_last (s : Segment) : s.strided (s.template + s.count - 1) = s.lastGenerated := by
  rw [strided, lastGenerated, show (s.template : Int) + s.count - 1 - s.template = s.count - 1 by
    omega]

theorem generated_le_lastGenerated (s : Segment) : s.generated ≤ s.lastGenerated := by
  have hcount := s.count_pos
  rw [← strided_start, ← strided_last]
  exact strided_mono (by omega)

/-- The answers within a segment lie between those at its first line and at its last line. -/
theorem strided_mem (h : s.covers line = true) :
    s.generated ≤ s.strided line ∧ s.strided line ≤ s.lastGenerated := by
  obtain ⟨hlow, hhigh⟩ := covers_eq_true_iff.mp h
  rw [← strided_start, ← strided_last]
  exact ⟨strided_mono hlow, strided_mono (by omega)⟩

/-- `a` ends at or before `b` on the template side, and its last generated line is at or before the
first one of `b`. -/
def Precedes (a b : Segment) : Prop :=
  a.templateEnd ≤ b.template ∧ a.lastGenerated ≤ b.generated

theorem Precedes.lt {a b : Segment} (h : a.Precedes b) : a.template < b.template := by
  have hend := h.1
  have hcount := a.count_pos
  unfold templateEnd at hend
  omega

theorem Precedes.trans {a b c : Segment} (hab : a.Precedes b) (hbc : b.Precedes c) :
    a.Precedes c := by
  have hend := hab.1
  have hlt := hbc.lt
  have hgenerated := b.generated_le_lastGenerated
  exact ⟨by omega, hab.2.trans (hgenerated.trans hbc.2)⟩

instance : Trans Precedes Precedes Precedes := ⟨Precedes.trans⟩

end Segment

namespace Table

variable {t : Table} {p n : Segment} {line line' : Int}

/-! ### Segments in the order of their lines -/

/-- Each segment precedes the next one. -/
def Ascending (t : Table) : Prop := t.IsChain Segment.Precedes

theorem Ascending.eq_or_precedes (h : t.Ascending) (hp : p ∈ t) (hn : n ∈ t) :
    p = n ∨ p.Precedes n ∨ n.Precedes p := by
  have symm : Std.Symm fun a b : Segment => a.Precedes b ∨ b.Precedes a := ⟨fun _ _ => Or.symm⟩
  have hpairs : t.Pairwise fun a b => a.Precedes b ∨ b.Precedes a := h.pairwise.imp Or.inl
  exact or_iff_not_imp_left.mpr (hpairs.forall hp hn)

/-- A segment that starts later than another one is past all of it. -/
theorem Ascending.precedes_of_lt (h : t.Ascending) (hp : p ∈ t) (hn : n ∈ t)
    (hlt : p.template < n.template) : p.Precedes n := by
  rcases h.eq_or_precedes hp hn with rfl | hprecedes | hprecedes
  · exact absurd hlt (Nat.lt_irrefl _)
  · exact hprecedes
  · exact absurd hprecedes.lt (Nat.lt_asymm hlt)

theorem Ascending.eq_of_start (h : t.Ascending) (hp : p ∈ t) (hn : n ∈ t)
    (hstart : p.template = n.template) : p = n := by
  rcases h.eq_or_precedes hp hn with rfl | hprecedes | hprecedes
  · rfl
  · exact absurd hstart hprecedes.lt.ne
  · exact absurd hstart hprecedes.lt.ne'

theorem Ascending.generated_le (h : t.Ascending) (hp : p ∈ t) (hn : n ∈ t)
    (hle : p.template ≤ n.template) : p.generated ≤ n.generated := by
  rcases hle.eq_or_lt with hstart | hlt
  · rw [h.eq_of_start hp hn hstart]
  · have hlast := (h.precedes_of_lt hp hn hlt).2
    have hgenerated := p.generated_le_lastGenerated
    omega

/-! ### Where a line lies -/

/-- `p` is a segment that starts at or before the template line `line`, and none that does starts
later. -/
structure LastBefore (t : Table) (line : Int) (p : Segment) : Prop where
  mem : p ∈ t
  le : (p.template : Int) ≤ line
  max : ∀ y ∈ t, (y.template : Int) ≤ line → y.template ≤ p.template

theorem LastBefore.eq (h : t.Ascending) (hp : LastBefore t line p) (hn : LastBefore t line n) :
    p = n :=
  h.eq_of_start hp.mem hn.mem (Nat.le_antisymm (hn.max p hp.mem hp.le) (hp.max n hn.mem hn.le))

/-- The generated line of a line behind the end of `s` and before the next start: on the way to that
start, or as far from the start of `s` as on the template side. -/
def continued (t : Table) (s : Segment) (line : Int) : Int :=
  match t.after? line with
  | some n => between s n line
  | none => s.generated + (line - s.template)

/-- The generated line of a template line before it is clamped, by where the line lies. -/
inductive Placed (t : Table) (line : Int) : Int → Prop
  /-- Within a segment. -/
  | within {p : Segment} (last : LastBefore t line p) (covers : p.covers line = true) :
      Placed t line (p.strided line)
  /-- Behind a segment. -/
  | behind {p : Segment} (last : LastBefore t line p) (uncovered : ¬ p.covers line = true) :
      Placed t line (t.continued p line)
  /-- Ahead of all segments. -/
  | ahead {x : Segment} (early : ∀ y ∈ t, line < (y.template : Int)) (mem : x ∈ t)
      (first : ∀ y ∈ t, x.template ≤ y.template) :
      Placed t line (x.generated + (line - x.template))

theorem Ascending.lastBefore_of_covers (h : t.Ascending) (hp : p ∈ t)
    (hcovers : p.covers line = true) : LastBefore t line p := by
  obtain ⟨hlow, hhigh⟩ := Segment.covers_eq_true_iff.mp hcovers
  refine ⟨hp, hlow, fun y hy hle => Nat.not_lt.mp fun hlt => ?_⟩
  have hend := (h.precedes_of_lt hp hy hlt).1
  unfold Segment.templateEnd at hend
  omega

theorem Ascending.placed (h : t.Ascending) {g : Int} {c : Confidence}
    (hforwarded : t.Forwarded line g c) : t.Placed line g := by
  cases hforwarded with
  | covered first =>
    have hcovers := List.find?_some first
    exact .within (h.lastBefore_of_covers (List.mem_of_find?_eq_some first) hcovers) hcovers
  | @between p n uncovered before after =>
    obtain ⟨hp, hle⟩ := mem_of_before? before
    have last : LastBefore t line p := ⟨hp, hle, fun y hy => le_of_before? before hy⟩
    have hcontinued : t.continued p line = Table.between p n line := by
      simp only [continued, after]
    exact hcontinued ▸ .behind last (uncovered p hp)
  | @beside x uncovered side nearest =>
    have hx := List.argmin_mem nearest
    have hmin := fun y hy => List.le_of_mem_argmin (a := y) hy nearest
    rcases side with hpast | hahead
    · have last : LastBefore t line x := by
        refine ⟨hx, (hpast x hx).le, fun y hy _ => ?_⟩
        have hxlt := hpast x hx
        have hylt := hpast y hy
        have hle := hmin y hy
        unfold Segment.distance at hle
        omega
      have hcontinued : t.continued x line = x.generated + (line - x.template) := by
        simp only [continued, after?_eq_none.mpr hpast]
      exact hcontinued ▸ .behind last (uncovered x hx)
    · refine .ahead hahead hx fun y hy => ?_
      have hxlt := hahead x hx
      have hylt := hahead y hy
      have hle := hmin y hy
      unfold Segment.distance at hle
      omega

/-! ### Starts bound the answers on either side -/

variable {g g' : Int}

/-- The next start is that of a later segment. -/
theorem LastBefore.lt_after (last : LastBefore t line p) (uncovered : ¬ p.covers line = true)
    (hafter : t.after? line = some n) : p.template < n.template := by
  have hne := Segment.start_ne_of_uncovered uncovered
  have hle := last.le
  have hn := (mem_of_after? hafter).2
  omega

theorem Ascending.le_continued (h : t.Ascending) (last : LastBefore t line p)
    (uncovered : ¬ p.covers line = true) : p.generated ≤ t.continued p line := by
  have hle := last.le
  unfold continued
  split
  next n hafter =>
    obtain ⟨hn, hline⟩ := mem_of_after? hafter
    have hlt := last.lt_after uncovered hafter
    exact (between_mem hlt (h.generated_le last.mem hn hlt.le) hle hline).1
  next => omega

theorem Ascending.continued_le (h : t.Ascending) (last : LastBefore t line p)
    (uncovered : ¬ p.covers line = true) (hn : n ∈ t) (hline : line ≤ n.template) :
    t.continued p line ≤ n.generated := by
  unfold continued
  split
  next m hafter =>
    obtain ⟨hm, hmline⟩ := mem_of_after? hafter
    have hlt := last.lt_after uncovered hafter
    have hbetween := (between_mem hlt (h.generated_le last.mem hm hlt.le) last.le hmline).2
    have hgenerated := h.generated_le hm hn (le_of_after? hafter hn hline)
    omega
  next hafter =>
    have hpast := after?_eq_none.mp hafter n hn
    omega

/-- From the start of a segment on, no answer is below its generated line. -/
theorem Ascending.le_placed (h : t.Ascending) (hplaced : t.Placed line g) (hn : n ∈ t)
    (hline : n.template ≤ line) : n.generated ≤ g := by
  cases hplaced with
  | within last covers =>
    have hgenerated := h.generated_le hn last.mem (last.max n hn hline)
    have hstrided := (Segment.strided_mem covers).1
    omega
  | behind last uncovered =>
    have hgenerated := h.generated_le hn last.mem (last.max n hn hline)
    have hcontinued := h.le_continued last uncovered
    omega
  | ahead early _ _ =>
    have hearly := early n hn
    omega

/-- Up to the start of a segment, no answer is above its generated line. -/
theorem Ascending.placed_le (h : t.Ascending) (hplaced : t.Placed line g) (hn : n ∈ t)
    (hline : line ≤ n.template) : g ≤ n.generated := by
  cases hplaced with
  | @within p last covers =>
    have hle : p.template ≤ n.template := by
      have hple := last.le
      omega
    rcases hle.eq_or_lt with hstart | hlt
    · obtain rfl := h.eq_of_start last.mem hn hstart
      have hple := last.le
      rw [show line = p.template by omega, Segment.strided_start]
    · exact (Segment.strided_mem covers).2.trans (h.precedes_of_lt last.mem hn hlt).2
  | behind last uncovered => exact h.continued_le last uncovered hn hline
  | @ahead x early mem first =>
    have hgenerated := h.generated_le mem hn (first n hn)
    have hearly := early x mem
    omega

/-! ### Stepping back -/

/-- Line `q` lies in `s`, and `q'` behind the end of `s` but before the next start. -/
structure Leaving (t : Table) (s : Segment) (q q' : Int) : Prop where
  last : LastBefore t q' s
  covers : s.covers q = true
  behind : ¬ s.covers q' = true

variable {s : Segment} {q q' : Int}

theorem Ascending.eq_strided (h : t.Ascending) (hplaced : t.Placed line g) (hs : s ∈ t)
    (hcovers : s.covers line = true) : g = s.strided line := by
  have hs' := h.lastBefore_of_covers hs hcovers
  cases hplaced with
  | within last _ => rw [last.eq h hs']
  | behind last uncovered => exact absurd (last.eq h hs' ▸ hcovers) uncovered
  | ahead early _ _ =>
    have hearly := early s hs
    have hle := hs'.le
    omega

theorem Ascending.eq_continued (h : t.Ascending) (hplaced : t.Placed line g)
    (hlast : LastBefore t line s) (huncovered : ¬ s.covers line = true) :
    g = t.continued s line := by
  cases hplaced with
  | within last covers => exact absurd (last.eq h hlast ▸ covers) huncovered
  | behind last _ => rw [last.eq h hlast]
  | ahead early _ _ =>
    have hearly := early s hlast.mem
    have hle := hlast.le
    omega

/-- Behind one segment and before the next start, answers do not step back. -/
theorem Ascending.continued_mono (h : t.Ascending) (last : LastBefore t q s)
    (uncovered : ¬ s.covers q = true) (hle : q ≤ q')
    (hnone : ∀ y ∈ t, q ≤ y.template → q' < y.template) :
    t.continued s q ≤ t.continued s q' := by
  have hstarts : t.filter (fun y => decide (q ≤ (y.template : Int))) =
      t.filter (fun y => decide (q' ≤ (y.template : Int))) :=
    List.filter_congr fun y hy => decide_eq_decide.mpr
      ⟨fun hq => (hnone y hy hq).le, fun hq' => hle.trans hq'⟩
  have hafter : t.after? q' = t.after? q := by
    rw [after?_eq_argmin, after?_eq_argmin, hstarts]
  unfold continued
  rw [hafter]
  split
  next n hn =>
    have hlt := last.lt_after uncovered hn
    exact between_mono hlt (h.generated_le last.mem (mem_of_after? hn).1 hlt.le) last.le hle
  next => omega

/-- The later of two lines has the lower answer only behind the segment of the earlier one. -/
theorem Ascending.le_or_leaving (h : t.Ascending) (hplaced : t.Placed q g)
    (hplaced' : t.Placed q' g') (hle : q ≤ q') : g ≤ g' ∨ ∃ s, t.Leaving s q q' := by
  by_cases hstart : ∃ y ∈ t, q ≤ (y.template : Int) ∧ (y.template : Int) ≤ q'
  · obtain ⟨y, hy, hbefore, hafter⟩ := hstart
    exact .inl ((h.placed_le hplaced hy hbefore).trans (h.le_placed hplaced' hy hafter))
  -- No segment starts from the one line to the other, so the same one is the last before both.
  have hnone : ∀ y ∈ t, q ≤ (y.template : Int) → q' < y.template := fun y hy hq =>
    Int.not_le.mp fun hq' => hstart ⟨y, hy, hq, hq'⟩
  have hlast : ∀ p, LastBefore t q p → LastBefore t q' p := fun p last =>
    ⟨last.mem, last.le.trans hle, fun y hy hy' =>
      last.max y hy (Int.not_lt.mp fun hlt => Int.not_lt.mpr hy' (hnone y hy hlt.le))⟩
  cases hplaced with
  | @within p last covers =>
    by_cases hcovers' : p.covers q' = true
    · rw [h.eq_strided hplaced' last.mem hcovers']
      exact .inl (Segment.strided_mono hle)
    · exact .inr ⟨p, hlast p last, covers, hcovers'⟩
  | @behind p last uncovered =>
    have huncovered' : ¬ p.covers q' = true := by
      have hple := last.le
      rw [Segment.covers_eq_true_iff] at uncovered ⊢
      omega
    rw [h.eq_continued hplaced' (hlast p last) huncovered']
    exact .inl (h.continued_mono last uncovered hle hnone)
  | @ahead x early mem first =>
    cases hplaced' with
    | within last' _ | behind last' _ =>
      have hlt := hnone _ last'.mem (early _ last'.mem).le
      have hle' := last'.le
      omega
    | @ahead x' _ mem' first' =>
      obtain rfl : x = x' :=
        h.eq_of_start mem mem' (Nat.le_antisymm (first x' mem') (first' x mem))
      exact .inl (by omega)

/-- Of two template lines on a table in the order of its lines, the later one has the lower answer
exactly if the earlier one lies in a segment, the later one behind its end and before the next
start, and the answer there, which is counted from the start of the segment without its stride, is
below the one within the segment. -/
theorem Ascending.forward?_le_iff (h : t.Ascending) (hne : t ≠ []) (hle : q ≤ q') :
    ∃ hit hit', t.forward? q = some hit ∧ t.forward? q' = some hit' ∧
      (hit.line ≤ hit'.line ↔
        ∀ s, t.Leaving s q q' → clampLine (s.strided q) ≤ clampLine (t.continued s q')) ∧
      ((∀ s ∈ t, s.count = 1) → hit.line ≤ hit'.line) := by
  obtain ⟨g, c, hforwarded, hforward⟩ := exists_forwarded hne q
  obtain ⟨g', c', hforwarded', hforward'⟩ := exists_forwarded hne q'
  have hplaced := h.placed hforwarded
  have hplaced' := h.placed hforwarded'
  have hiff : clampLine g ≤ clampLine g' ↔
      ∀ s, t.Leaving s q q' → clampLine (s.strided q) ≤ clampLine (t.continued s q') := by
    constructor
    · intro hlines s hleaving
      rwa [← h.eq_strided hplaced hleaving.last.mem hleaving.covers,
        ← h.eq_continued hplaced' hleaving.last hleaving.behind]
    · intro hall
      rcases h.le_or_leaving hplaced hplaced' hle with hlines | ⟨s, hleaving⟩
      · exact clampLine_mono hlines
      · rw [h.eq_strided hplaced hleaving.last.mem hleaving.covers,
          h.eq_continued hplaced' hleaving.last hleaving.behind]
        exact hall s hleaving
  refine ⟨_, _, hforward, hforward', hiff, fun hsingle => hiff.mpr fun s hleaving => ?_⟩
  -- A single line is the start of its segment.
  obtain ⟨hlow, hhigh⟩ := Segment.covers_eq_true_iff.mp hleaving.covers
  have hcount := hsingle s hleaving.last.mem
  rw [show q = s.template by omega, Segment.strided_start]
  exact clampLine_mono (h.le_continued hleaving.last hleaving.behind)

/-- Four template lines that are three generated lines apart. -/
def strides : Table := [.of 124 4 246 3 none]

theorem strides_ascending : strides.Ascending := .singleton _

/-- Template line 128 is behind the segment, and its answer below that of line 127. -/
theorem strides_forward?_le : strides.Ascending ∧ strides ≠ [] ∧ (127 : Int) ≤ 128 ∧
    ∃ hit hit', strides.forward? 127 = some hit ∧ strides.forward? 128 = some hit' ∧
      ¬ hit.line ≤ hit'.line := by
  have hne : strides ≠ [] := nofun
  have hle : (127 : Int) ≤ 128 := by decide
  obtain ⟨hit, hit', hforward, hforward', hiff, -⟩ := strides_ascending.forward?_le_iff hne hle
  refine ⟨strides_ascending, hne, hle, hit, hit', hforward, hforward', fun hlines => ?_⟩
  have hmem : Segment.of 124 4 246 3 none ∈ strides := List.mem_cons_self
  have last : LastBefore strides 128 (.of 124 4 246 3 none) :=
    ⟨hmem, by decide, fun y hy _ => by rw [List.mem_singleton.mp hy]⟩
  exact absurd (hiff.mp hlines _ ⟨last, by decide, by decide⟩) (by decide)

/-- Forward answers do step back on some tables in the order of their lines. -/
theorem not_forall_forward?_le : ¬ ∀ (t : Table) (q q' : Int) (hit hit' : Hit),
    t.Ascending → q ≤ q' → t.forward? q = some hit → t.forward? q' = some hit' →
      hit.line ≤ hit'.line := by
  intro h
  have hforward : strides.forward? 127 = some ⟨255, .exact⟩ := by decide
  have hforward' : strides.forward? 128 = some ⟨250, .extrapolated⟩ := by decide
  exact absurd (h strides 127 128 _ _ strides_ascending (by decide) hforward hforward') (by decide)

end Table

end TemplateMap
