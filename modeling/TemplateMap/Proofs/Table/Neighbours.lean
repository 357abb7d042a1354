import Mathlib.Order.Lattice.Nat
import TemplateMap.Proofs.Table.Between
import TemplateMap.Proofs.Table.Forward
import TemplateMap.Proofs.Table.SingleLines

/-! Interpolated answers and the segments on either side of the line.  A forward answer never leaves
the generated starts of its two neighbours, in whatever order the segments stand and whichever way
their generated lines run.  A reverse answer is counted from the neighbour before the line alone, so
it is past that one, but it is past the other one too where the generated lines are farther apart
than the template lines. -/

namespace TemplateMap.Table

variable {t : Table}

/-! ### Template lines between two starts -/

/-- The earliest of the segments with the greatest template start below `line`. -/
def below? (t : Table) (line : Int) : Option Segment :=
  (t.filter fun s => (s.template : Int) < line).argmax (·.template)

/-- The earliest of the segments with the least template start above `line`. -/
def above? (t : Table) (line : Int) : Option Segment :=
  (t.filter fun s => line < (s.template : Int)).argmin (·.template)

section

variable {line : Int} (h : ∀ s ∈ t, (s.template : Int) ≠ line)
include h

theorem before?_eq_below? : t.before? line = t.below? line := by
  rw [before?_eq_argmax, below?, List.filter_congr fun s hs =>
    decide_eq_decide.mpr ⟨fun hle => hle.lt_of_ne (h s hs), Int.le_of_lt⟩]

theorem after?_eq_above? : t.after? line = t.above? line := by
  rw [after?_eq_argmin, above?, List.filter_congr fun s hs =>
    decide_eq_decide.mpr ⟨fun hle => hle.lt_of_ne' (h s hs), Int.le_of_lt⟩]

end

/-- A generated start bounds answers as the line that it is, line 0 as line 1. -/
theorem clampLine_generated (s : Segment) : clampLine s.generated = max 1 s.generated := by
  have hle := s.generated_le
  unfold clampLine
  split
  · omega
  · split <;> omega

/-- An interpolated generated line lies between the starts of the two neighbours of the template
line. -/
theorem forward?_interpolated_mem {line : Int} {hit : Hit} (hforward : t.forward? line = some hit)
    (hinterpolated : hit.confidence = .interpolated) :
    ∃ p n, t.below? line = some p ∧ t.above? line = some n ∧
      hit.line ∈ Set.uIcc (max 1 p.generated) (max 1 n.generated) := by
  have hne : t ≠ [] := by
    rintro rfl
    cases hforward
  obtain ⟨g, c, hforwarded, hanswer⟩ := exists_forwarded hne line
  obtain rfl : ⟨clampLine g, c⟩ = hit := Option.some.inj (hanswer.symm.trans hforward)
  cases hforwarded with
  | covered _ | beside _ _ _ => cases hinterpolated
  | @between p n uncovered before after =>
    have hstarts : ∀ s ∈ t, (s.template : Int) ≠ line := fun s hs =>
      Segment.start_ne_of_uncovered (uncovered s hs)
    obtain ⟨hplt, hltn⟩ := lt_of_uncovered uncovered before after
    refine ⟨p, n, before?_eq_below? hstarts ▸ before, after?_eq_above? hstarts ▸ after, ?_⟩
    have hmem := between_mem_uIcc (p := p) (n := n) (by omega) hplt.le hltn.le
    have hmono : Monotone clampLine := fun _ _ => clampLine_mono
    rw [← clampLine_generated, ← clampLine_generated]
    exact hmono.mapsTo_uIcc hmem

/-- Two segments with the same start, listed after a later one with lower generated lines. -/
def falling : Table := [.single 20 50, .of 1 3 7 1 none, .single 10 100, .single 10 900]

/-- Template line 12 is answered from the first of the two. -/
theorem falling_forward? : falling.forward? 12 = some ⟨90, .interpolated⟩ ∧
    (90 : Nat) ∈ Set.uIcc (max 1 100) (max 1 50) := by
  have hforward : falling.forward? 12 = some ⟨90, .interpolated⟩ := by decide +kernel
  obtain ⟨p, n, hp, hn, hmem⟩ := forward?_interpolated_mem hforward rfl
  obtain rfl : Segment.single 10 100 = p := Option.some.inj hp
  obtain rfl : Segment.single 20 50 = n := Option.some.inj hn
  exact ⟨hforward, hmem⟩

/-! ### Generated lines between two starts -/

/-- Single lines in the order of both sides. -/
structure Rising (t : Table) : Prop extends SingleLines t where
  template_lt : t.Pairwise fun a b => a.template < b.template
  generated_lt : t.Pairwise fun a b => a.generated < b.generated

theorem find?_of_pairwise_lt {f : Segment → Nat} {s : Segment}
    (h : t.Pairwise fun a b => f a < f b) (hs : s ∈ t) : t.find? (f · = f s) = some s := by
  obtain ⟨before, after, rfl⟩ := List.append_of_mem hs
  refine List.find?_eq_some_iff_append.mpr
    ⟨decide_eq_true rfl, before, after, rfl, fun a ha => ?_⟩
  have hlt := (List.pairwise_append.mp h).2.2 a ha s List.mem_cons_self
  simpa using hlt.ne

/-- The two lines of a segment are each other's answers. -/
theorem Rising.queries_start (h : t.Rising) {s : Segment} (hs : s ∈ t) :
    t.forward? s.template = some ⟨s.generated, .exact⟩ ∧
      t.reverse? s.generated = some ⟨s.template, .exact⟩ :=
  ⟨h.forward?_eq (find?_of_pairwise_lt h.template_lt hs),
    h.reverse?_eq (find?_of_pairwise_lt h.generated_lt hs)⟩

section

variable {a b : Segment} {g : Int}

theorem Rising.lastStart (h : t.Rising) (hab : [a, b] <:+: t) (hlow : a.generated < g)
    (hhigh : g < b.generated) : LastStart t g a := by
  obtain ⟨before, after, rfl⟩ := hab
  rw [List.append_assoc] at h ⊢
  obtain ⟨-, hrest, hbefore⟩ := List.pairwise_append.mp h.generated_lt
  obtain ⟨hafter, -⟩ := List.pairwise_cons.mp (List.pairwise_cons.mp hrest).2
  refine ⟨by simp, hlow.le, fun y hy hle => ?_⟩
  rcases List.mem_append.mp hy with hy | hy
  · exact (hbefore y hy a List.mem_cons_self).le
  rcases List.mem_cons.mp hy with rfl | hy
  · exact Nat.le_refl _
  rcases List.mem_cons.mp hy with rfl | hy
  · omega
  · have hlt := hafter y hy
    omega

/-- Between two consecutive segments a generated line is answered from the first one. -/
theorem Rising.reverse?_eq_offset (h : t.Rising) (hab : [a, b] <:+: t) (hlow : a.generated < g)
    (hhigh : g < b.generated) : t.reverse? g = some ⟨offsetFrom a g, .interpolated⟩ := by
  have hdistinct := h.generated_lt.imp fun hlt => hlt.ne
  rw [(h.lastStart hab hlow hhigh).reverse?_eq hdistinct, if_neg hlow.ne]

theorem Rising.template_lt_next (h : t.Rising) (hab : [a, b] <:+: t) :
    a.template < b.template := by
  have hpair : [a, b].Pairwise fun a b => a.template < b.template :=
    h.template_lt.sublist hab.sublist
  exact List.rel_of_pairwise_cons hpair List.mem_cons_self

/-- The template line of a generated line between two consecutive segments is as far from the first
one as on the generated side.  So it is past the first one, but past the second one too if the
template lines are closer together than that. -/
theorem Rising.reverse?_between (h : t.Rising) (hab : [a, b] <:+: t) (hlow : a.generated < g)
    (hhigh : g < b.generated) :
    ∃ line, t.reverse? g = some ⟨line, .interpolated⟩ ∧
      (line : Int) = min (a.template + (g - a.generated)) lastLine ∧ a.template < line ∧
      (line ≤ b.template ↔ g - a.generated ≤ b.template - a.template ∨ b.template = lastLine) := by
  have hreverse := h.reverse?_eq_offset hab hlow hhigh
  have hline : (offsetFrom a g : Int) = min (a.template + (g - a.generated)) lastLine :=
    clampLine_eq_min (by omega)
  have htemplate := h.template_lt_next hab
  have hlast := b.template_le
  exact ⟨_, hreverse, hline, by omega, by omega⟩

end

/-- Two template lines next to each other, ten generated lines apart. -/
def stretched : Table := [.single 1 10, .single 2 20]

theorem stretched_rising : stretched.Rising :=
  ⟨⟨by decide, by decide, by decide⟩, by decide, by decide⟩

/-- Generated line 11 comes from the second template line, line 15 from a later one. -/
theorem stretched_reverse? : stretched.Rising ∧ [.single 1 10, .single 2 20] <:+: stretched ∧
    stretched.reverse? 11 = some ⟨2, .interpolated⟩ ∧
    stretched.reverse? 15 = some ⟨6, .interpolated⟩ := by
  have hpair : [.single 1 10, .single 2 20] <:+: stretched := List.infix_rfl
  obtain ⟨line, hreverse, hline, -⟩ :=
    stretched_rising.reverse?_between (g := 11) hpair (by decide) (by decide)
  obtain ⟨line', hreverse', hline', -⟩ :=
    stretched_rising.reverse?_between (g := 15) hpair (by decide) (by decide)
  obtain rfl : line = 2 := Int.ofNat_inj.mp (hline.trans (by decide))
  obtain rfl : line' = 6 := Int.ofNat_inj.mp (hline'.trans (by decide))
  exact ⟨stretched_rising, hpair, hreverse, hreverse'⟩

/-- The template line of a generated line between two segments is not always one between theirs. -/
theorem not_forall_reverse?_between : ¬ ∀ (t : Table) (a b : Segment) (g : Int), t.Rising →
    [a, b] <:+: t → a.generated < g → g < b.generated →
      ∃ line, t.reverse? g = some ⟨line, .interpolated⟩ ∧ a.template ≤ line ∧
        line ≤ b.template := by
  intro h
  have hpair : [.single 1 10, .single 2 20] <:+: stretched := List.infix_rfl
  have hlow : ((Segment.single 1 10).generated : Int) < 15 := by decide
  have hhigh : 15 < ((Segment.single 2 20).generated : Int) := by decide
  obtain ⟨line, hreverse, -, hle⟩ := h stretched _ _ 15 stretched_rising hpair hlow hhigh
  rw [stretched_rising.reverse?_eq_offset hpair hlow hhigh] at hreverse
  obtain rfl : offsetFrom (.single 1 10) 15 = line := congrArg Hit.line (Option.some.inj hreverse)
  exact absurd hle (by decide)

end TemplateMap.Table
