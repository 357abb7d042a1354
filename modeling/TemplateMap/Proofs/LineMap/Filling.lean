import Mathlib.Data.List.Infix
import TemplateMap.Proofs.LineMap.Ordered
import TemplateMap.Proofs.Number.Binary64

/-! How close the lines that fill a gap come to its end.  Each is a rounded product of a rounded
quotient, but the rounding takes none past the line at the end of its gap, and in gaps of at most
`2 ^ 16` template lines it decides nothing: a filling line reaches the line at the end of its gap
exactly if the gap has at least two template lines for each generated one.  So in a map whose
generated lines ascend, these are the gaps after which an entry loses its generated line to the
filling. -/

namespace TemplateMap.LineMap

variable {m : LineMap} {p q r : Nat × Nat} {maxGap : Nat}

/-! ### A point of a line

Binary64 represents bounds in parts of `2 ^ 18`, so they pass through all roundings of a point. -/

section

variable {slope : Rat} {step step' n : Nat}

theorem lineAlong_zero (hp : p.2 ≤ lastLine) (slope : Rat) : lineAlong p slope 0 = p.2 := by
  have hsmall : p.2 < 2 ^ 53 := hp.trans_lt (by decide)
  have hstart : Binary64.nearest 0 = 0 := if_pos rfl
  unfold lineAlong
  simp only [Nat.cast_zero, zero_mul]
  rw [hstart, add_zero, Binary64.nearest_eq_self (Binary64.representable_natCast hsmall),
    roundHalfAway_natCast, Int.toNat_natCast, Nat.min_eq_left hp]

theorem lineAlong_mono (hslope : 0 ≤ slope) (h : step ≤ step') :
    lineAlong p slope step ≤ lineAlong p slope step' := by
  have hstep : 0 ≤ step * slope := mul_nonneg step.cast_nonneg hslope
  have hrise := Binary64.nearest_mono hstep
    (mul_le_mul_of_nonneg_right (Nat.cast_le.mpr h) hslope)
  have hline : 0 ≤ (p.2 : Rat) + Binary64.nearest (step * slope) :=
    add_nonneg p.2.cast_nonneg (Binary64.nearest_nonneg hstep)
  have hround := Binary64.nearest_mono hline (add_le_add_right hrise p.2)
  have hlines := roundHalfAway_mono (Binary64.nearest_nonneg hline) hround
  unfold lineAlong
  simp only
  omega

theorem representable_parts {parts : Nat} (h : parts < 2 ^ 53) :
    Binary64.Representable (parts / (2 ^ 18 : Nat)) :=
  Binary64.representable_div h (by decide)

theorem lineAlong_lt (parts : Nat) (hslope : 0 ≤ slope)
    (hle : step * slope ≤ parts / (2 ^ 18 : Nat))
    (hsmall : p.2 * 2 ^ 18 + parts < 2 ^ 53) (hn : p.2 * 2 ^ 18 + parts + 2 ^ 17 < n * 2 ^ 18) :
    lineAlong p slope step < n := by
  have hstep : 0 ≤ step * slope := mul_nonneg step.cast_nonneg hslope
  have hrise := Binary64.nearest_le hstep (representable_parts (by omega)) hle
  have hline : (p.2 : Rat) + Binary64.nearest (step * slope) ≤
      (p.2 * 2 ^ 18 + parts : Nat) / (2 ^ 18 : Nat) := by
    push_cast at hrise ⊢
    linarith
  have hpos : 0 ≤ (p.2 : Rat) + Binary64.nearest (step * slope) :=
    add_nonneg p.2.cast_nonneg (Binary64.nearest_nonneg hstep)
  have hround := Binary64.nearest_le hpos (representable_parts hsmall) hline
  have hn' : ((p.2 * 2 ^ 18 + parts + 2 ^ 17 : Nat) : Rat) < (n * 2 ^ 18 : Nat) :=
    Nat.cast_lt.mpr hn
  have hlt : roundHalfAway (Binary64.nearest (p.2 + Binary64.nearest (step * slope))) < n := by
    refine (roundHalfAway_lt (Binary64.nearest_nonneg hpos)).mpr ?_
    push_cast at hround hn' ⊢
    linarith
  unfold lineAlong
  simp only
  omega

theorem le_lineAlong (parts : Nat) (hle : parts / (2 ^ 18 : Nat) ≤ step * slope)
    (hsmall : p.2 * 2 ^ 18 + parts < 2 ^ 53) (hn : n * 2 ^ 18 ≤ p.2 * 2 ^ 18 + parts + 2 ^ 17)
    (hlast : n ≤ lastLine) : n ≤ lineAlong p slope step := by
  have hrise := Binary64.le_nearest (representable_parts (by omega)) hle
  have hline : ((p.2 * 2 ^ 18 + parts : Nat) : Rat) / (2 ^ 18 : Nat) ≤
      p.2 + Binary64.nearest (step * slope) := by
    push_cast at hrise ⊢
    linarith
  have hround := Binary64.le_nearest (representable_parts hsmall) hline
  have hround' : 0 ≤ Binary64.nearest (p.2 + Binary64.nearest (step * slope)) :=
    (representable_parts hsmall).nonneg.trans hround
  have hn' : ((n * 2 ^ 18 : Nat) : Rat) ≤ (p.2 * 2 ^ 18 + parts + 2 ^ 17 : Nat) :=
    Nat.cast_le.mpr hn
  have hge : n ≤ roundHalfAway (Binary64.nearest (p.2 + Binary64.nearest (step * slope))) := by
    refine not_lt.mp fun hlt => ?_
    have := (roundHalfAway_lt hround').mp hlt
    push_cast at hround hn' this
    linarith
  unfold lineAlong
  simp only
  omega

end

/-! ### A point of a line through the start -/

section

variable {rise gap step : Nat}

theorem cast_le_of_le_lastLine {n : Nat} (h : n ≤ lastLine) : (n : Rat) ≤ 2 ^ 32 := by
  exact_mod_cast h.trans (by decide : lastLine ≤ 2 ^ 32)

theorem abs_quotient_sub_le (hrise : 0 < rise) (hgap : 0 < gap) (hwidth : gap ≤ lastLine) :
    |Binary64.nearest ((rise : Rat) / gap) - (rise : Rat) / gap| ≤ (rise : Rat) / gap / 2 ^ 53 := by
  have hgap' : (0 : Rat) < gap := Nat.cast_pos.mpr hgap
  refine Binary64.abs_nearest_sub_le ((twoPow_le_twoPow (e := -32) (by decide)).trans ?_)
  rw [le_div_iff₀ hgap', show twoPow (-32) = 1 / 2 ^ 32 by simp [twoPow]]
  have hrise' : (1 : Rat) ≤ rise := Nat.one_le_cast.mpr hrise
  have hwidth' := cast_le_of_le_lastLine hwidth
  linarith

/-- The last point but one of a line lies one quotient below the last one, but for rounding. -/
theorem abs_mul_quotient_sub_le (hrise : 0 < rise) (hgap : 0 < gap) (hwidth : gap ≤ lastLine) :
    |((gap - 1 : Nat) : Rat) * Binary64.nearest ((rise : Rat) / gap) -
      (rise - (rise : Rat) / gap)| ≤ (rise - (rise : Rat) / gap) / 2 ^ 53 := by
  have herror := abs_quotient_sub_le hrise hgap hwidth
  have hproduct : (gap : Rat) * ((rise : Rat) / gap) = rise :=
    mul_div_cancel₀ _ (Nat.cast_ne_zero.mpr hgap.ne')
  have hgap' : (0 : Rat) ≤ gap - 1 := sub_nonneg.mpr (Nat.one_le_cast.mpr hgap)
  rw [Nat.cast_sub hgap, Nat.cast_one]
  generalize (rise : Rat) / gap = x at *
  have hscale : (gap - 1) * Binary64.nearest x - (rise - x) =
      (gap - 1) * (Binary64.nearest x - x) := by
    rw [← hproduct]
    ring
  rw [hscale, abs_mul, abs_of_nonneg hgap']
  calc (gap - 1) * |Binary64.nearest x - x| ≤ (gap - 1) * (x / 2 ^ 53) :=
        mul_le_mul_of_nonneg_left herror hgap'
    _ = (rise - x) / 2 ^ 53 := by
        rw [← hproduct]
        ring

theorem mul_quotient_le (hrise : 0 < rise) (hwidth : gap ≤ lastLine) (hstep : step < gap) :
    step * Binary64.nearest ((rise : Rat) / gap) ≤
      rise - (rise : Rat) / gap + (rise - (rise : Rat) / gap) / 2 ^ 53 := by
  have hgap : 0 < gap := by omega
  have hquotient : 0 ≤ Binary64.nearest ((rise : Rat) / gap) :=
    Binary64.nearest_nonneg (by positivity)
  have hstep' : (step : Rat) ≤ (gap - 1 : Nat) := Nat.cast_le.mpr (Nat.le_sub_one_of_lt hstep)
  have herror := (abs_le.mp (abs_mul_quotient_sub_le hrise hgap hwidth)).2
  have hle := mul_le_mul_of_nonneg_right hstep' hquotient
  linarith

/-- What the rounding adds is less than the quotient, by which the last point but one is below the
last one. -/
theorem mul_quotient_le_rise (hrise : 0 < rise) (hwidth : gap ≤ lastLine) (hstep : step < gap) :
    step * Binary64.nearest ((rise : Rat) / gap) ≤ rise := by
  have hproduct := mul_quotient_le hrise hwidth hstep
  have hgap : (0 : Rat) < gap := Nat.cast_pos.mpr (Nat.zero_lt_of_lt hstep)
  have hquotient : (rise : Rat) / 2 ^ 32 ≤ (rise : Rat) / gap :=
    div_le_div_of_nonneg_left rise.cast_nonneg hgap (cast_le_of_le_lastLine hwidth)
  have hrise' : (0 : Rat) ≤ rise := rise.cast_nonneg
  linarith

/-- On a line that rises by more than one half for each step, the last point but one is more than
one half below the last one. -/
theorem mul_quotient_le_of_steep (hlast : rise ≤ lastLine) (hwidth : gap ≤ 2 ^ 16)
    (hstep : step < gap) (hsteep : gap < 2 * rise) :
    step * Binary64.nearest ((rise : Rat) / gap) ≤ rise - 1 / 2 - 1 / 2 ^ 18 := by
  have hproduct := mul_quotient_le (by omega : 0 < rise) (hwidth.trans (by decide)) hstep
  have hlast' := cast_le_of_le_lastLine hlast
  have hquotient : 1 / 2 + 1 / 2 ^ 17 ≤ (rise : Rat) / gap := by
    have hsteep' : (gap + 1 : Rat) ≤ 2 * rise := by exact_mod_cast hsteep
    have hwidth' : (gap : Rat) ≤ 2 ^ 16 := by exact_mod_cast hwidth
    rw [le_div_iff₀ (Nat.cast_pos.mpr (Nat.zero_lt_of_lt hstep))]
    linarith
  linarith

/-- On a line that rises by at most one half for each step, the last point but one is at most one
half below the last one. -/
theorem le_mul_quotient_of_flat (hrise : 0 < rise) (hlast : rise ≤ lastLine)
    (hwidth : gap ≤ 2 ^ 16) (hflat : 2 * rise ≤ gap) :
    rise - 1 / 2 ≤ (gap - 1 : Nat) * Binary64.nearest ((rise : Rat) / gap) := by
  have hgap : (0 : Rat) < gap := Nat.cast_pos.mpr (by omega)
  rcases hflat.eq_or_lt with hhalf | hlt
  · have hhalf' : (gap : Rat) = 2 * rise := by exact_mod_cast hhalf.symm
    have hquotient : (rise : Rat) / gap = (1 : Nat) / (2 ^ 1 : Nat) := by
      rw [div_eq_iff hgap.ne', hhalf']
      push_cast
      ring
    rw [hquotient, Binary64.nearest_eq_self (Binary64.representable_div (by decide) (by decide)),
      Nat.cast_sub (by omega), hhalf']
    push_cast
    linarith
  · have herror := (abs_le.mp
      (abs_mul_quotient_sub_le hrise (by omega) (hwidth.trans (by decide)))).1
    have hlast' := cast_le_of_le_lastLine hlast
    have hrise' : (0 : Rat) ≤ rise / gap := by positivity
    have hquotient : (rise : Rat) / gap ≤ 1 / 2 - 1 / 2 ^ 17 := by
      have hlt' : (2 * rise + 1 : Rat) ≤ gap := by exact_mod_cast hlt
      have hwidth' : (gap : Rat) ≤ 2 ^ 16 := by exact_mod_cast hwidth
      rw [div_le_iff₀ hgap]
      linarith
    linarith

end

/-! ### The lines that fill a gap -/

theorem slope_nonneg (p q : Nat × Nat) : 0 ≤ slope p q := Binary64.nearest_nonneg (by positivity)

/-- Before the end of a gap no point of the line to it is past the generated line there. -/
theorem lineAlong_slope_le {step : Nat} (hwidth : q.1 - p.1 ≤ lastLine) (hq : q.2 ≤ lastLine)
    (hrise : p.2 < q.2) (hstep : step < q.1 - p.1) : lineAlong p (slope p q) step ≤ q.2 := by
  have hle := mul_quotient_le_rise (by omega : 0 < q.2 - p.2) hwidth hstep
  refine Nat.lt_succ_iff.mp (lineAlong_lt ((q.2 - p.2) * 2 ^ 18) (slope_nonneg p q) ?_ ?_ ?_)
  · rwa [Nat.cast_mul, mul_div_cancel_right₀ _ (by decide)]
  · unfold lastLine at hq
    omega
  · omega

theorem filling_le (hwidth : q.1 - p.1 ≤ lastLine) (hq : q.2 ≤ lastLine)
    (hr : r ∈ filling maxGap p q) : r.2 ≤ q.2 := by
  obtain ⟨-, hrise, step, -, hstep, rfl⟩ := mem_filling_iff.mp hr
  exact lineAlong_slope_le hwidth hq hrise hstep

/-- In a gap with less than two template lines for each generated one, all filling lines are before
the line at its end. -/
theorem filling_lt (hq : q.2 ≤ lastLine) (hmax : maxGap ≤ 2 ^ 16) (hr : r ∈ filling maxGap p q)
    (hsteep : q.1 - p.1 < 2 * (q.2 - p.2)) : r.2 < q.2 := by
  obtain ⟨hgap, hrise, step, hpos, hstep, rfl⟩ := mem_filling_iff.mp hr
  have hle := mul_quotient_le_of_steep (by omega) (hgap.trans hmax) hstep hsteep
  obtain ⟨parts, hparts⟩ : ∃ parts, parts + 2 ^ 17 + 1 = (q.2 - p.2) * 2 ^ 18 :=
    ⟨(q.2 - p.2) * 2 ^ 18 - 2 ^ 17 - 1, by omega⟩
  refine lineAlong_lt parts (slope_nonneg p q) ?_ ?_ ?_
  · have hparts' : (parts + 2 ^ 17 + 1 : Rat) = (q.2 - p.2 : Nat) * 2 ^ 18 := by
      exact_mod_cast hparts
    refine hle.trans ?_
    push_cast
    linarith
  · unfold lastLine at hq
    omega
  · omega

/-- A filling line is the line at the end of its gap exactly in a gap with at least two template
lines for each generated one; there the last one is. -/
theorem exists_filling_eq_iff (hq : q.2 ≤ lastLine) (hmax : maxGap ≤ 2 ^ 16) (hrise : p.2 < q.2) :
    (∃ r ∈ filling maxGap p q, r.2 = q.2) ↔
      q.1 - p.1 ≤ maxGap ∧ 2 * (q.2 - p.2) ≤ q.1 - p.1 := by
  constructor
  · rintro ⟨r, hr, heq⟩
    refine ⟨(mem_filling_iff.mp hr).1, not_lt.mp fun hsteep => ?_⟩
    have := filling_lt hq hmax hr hsteep
    omega
  · rintro ⟨hgap, hflat⟩
    have hwidth : q.1 - p.1 ≤ lastLine := hgap.trans (hmax.trans (by decide))
    have hmem : (p.1 + (q.1 - p.1 - 1), lineAlong p (slope p q) (q.1 - p.1 - 1)) ∈
        filling maxGap p q :=
      mem_filling_iff.mpr ⟨hgap, hrise, q.1 - p.1 - 1, by omega, by omega, rfl⟩
    refine ⟨_, hmem, Nat.le_antisymm (filling_le hwidth hq hmem) ?_⟩
    have hle :=
      le_mul_quotient_of_flat (by omega : 0 < q.2 - p.2) (by omega) (hgap.trans hmax) hflat
    obtain ⟨parts, hparts⟩ : ∃ parts, parts + 2 ^ 17 = (q.2 - p.2) * 2 ^ 18 :=
      ⟨(q.2 - p.2) * 2 ^ 18 - 2 ^ 17, by omega⟩
    refine le_lineAlong parts ?_ ?_ ?_ hq
    · have hparts' : (parts + 2 ^ 17 : Rat) = (q.2 - p.2 : Nat) * 2 ^ 18 := by
        exact_mod_cast hparts
      refine le_trans ?_ hle
      push_cast
      linarith
    · unfold lastLine at hq
      omega
    · omega

/-- The gap before `q` is filled, and has at least two template lines for each generated one. -/
def Overtaken (maxGap : Nat) (m : LineMap) (q : Nat × Nat) : Prop :=
  ∃ p, [p, q] <:+: m ∧ q.1 - p.1 ≤ maxGap ∧ 2 * (q.2 - p.2) ≤ q.1 - p.1

theorem overtaken_cons_cons {rest : LineMap} : Overtaken maxGap (p :: q :: rest) r ↔
    (r = q ∧ q.1 - p.1 ≤ maxGap ∧ 2 * (q.2 - p.2) ≤ q.1 - p.1) ∨
      Overtaken maxGap (q :: rest) r := by
  unfold Overtaken
  constructor
  · rintro ⟨x, hx, hgap, hflat⟩
    rcases pair_infix_cons_cons.mp hx with ⟨rfl, rfl⟩ | hx
    · exact .inl ⟨rfl, hgap, hflat⟩
    · exact .inr ⟨x, hx, hgap, hflat⟩
  · rintro (⟨rfl, hgap, hflat⟩ | ⟨x, hx, hgap, hflat⟩)
    · exact ⟨p, pair_infix_cons_cons.mpr (.inl ⟨rfl, rfl⟩), hgap, hflat⟩
    · exact ⟨x, pair_infix_cons_cons.mpr (.inr hx), hgap, hflat⟩

/-- Where the generated lines ascend, an earlier line of the filled map has the generated line of
`q` exactly if `q` is overtaken. -/
theorem Ordered.exists_earlier_iff (h : m.Ordered) (hascending : m.Pairwise fun a b => a.2 < b.2)
    (hmax : maxGap ≤ 2 ^ 16) (hq : q ∈ m) :
    (∃ r ∈ m.densify maxGap, r.1 < q.1 ∧ r.2 = q.2) ↔ Overtaken maxGap m q := by
  induction m using LineMap.densify.induct with
  | case1 => cases hq
  | case2 p =>
    obtain rfl := List.mem_singleton.mp hq
    simp [LineMap.densify, Overtaken, List.infix_cons_iff]
  | case3 a b rest ih =>
    obtain ⟨-, hfirst, hrest⟩ := ordered_cons.mp h
    obtain ⟨hrises, hascending'⟩ := List.pairwise_cons.mp hascending
    obtain ⟨hwidth, hlast⟩ := hrest.le_lastLine b List.mem_cons_self
    rw [overtaken_cons_cons]
    rcases List.mem_cons.mp hq with rfl | hq
    -- No line is before the first one.
    · constructor
      · rintro ⟨r, hr, hlt, -⟩
        exact absurd (le_of_mem_densify h hr) (Nat.not_le.mpr hlt)
      · rintro (⟨rfl, -⟩ | ⟨p, hnext, -⟩)
        · exact absurd (hfirst q List.mem_cons_self) (Nat.lt_irrefl _)
        · exact absurd (hfirst q (hnext.subset (by simp))) (Nat.lt_irrefl _)
    · have hbefore : a.2 < q.2 := hrises q hq
      rw [← ih hrest hascending' hq]
      constructor
      · rintro ⟨r, hr, hlt, heq⟩
        rcases List.mem_cons.mp hr with rfl | hr
        · omega
        rcases List.mem_append.mp hr with hr | hr
        · rcases List.mem_cons.mp hq with rfl | hq
          · exact .inl ⟨rfl, (exists_filling_eq_iff hlast hmax hbefore).mp ⟨r, hr, heq⟩⟩
          · have hafter : b.2 < q.2 := (List.pairwise_cons.mp hascending').1 q hq
            have hle := filling_le (by omega) hlast hr
            omega
        · exact .inr ⟨r, hr, hlt, heq⟩
      · rintro (⟨rfl, hflat⟩ | ⟨r, hr, hlt, heq⟩)
        · obtain ⟨r, hr, heq⟩ := (exists_filling_eq_iff hlast hmax hbefore).mpr hflat
          exact ⟨r, List.mem_cons_of_mem _ (List.mem_append_left _ hr), (mem_filling hr).2.1, heq⟩
        · exact ⟨r, List.mem_cons_of_mem _ (List.mem_append_right _ hr), hlt, heq⟩

/-- Where the generated lines ascend, the first template line with the generated line of an entry is
that of the entry exactly if the entry is not overtaken. -/
theorem Ordered.first_iff (h : m.Ordered) (hascending : m.Pairwise fun a b => a.2 < b.2)
    (hmax : maxGap ≤ 2 ^ 16) (hq : q ∈ m) :
    (∀ r ∈ m.densify maxGap, r.2 = q.2 → q.1 ≤ max 1 r.1) ↔ ¬ Overtaken maxGap m q := by
  constructor
  · rintro hfirst hovertaken
    obtain ⟨r, hr, hlt, heq⟩ := (h.exists_earlier_iff hascending hmax hq).mpr hovertaken
    obtain ⟨p, hnext, -, hflat⟩ := hovertaken
    have hp : p.1 < q.1 := rel_of_pair_infix h.ascending hnext
    have hrise : p.2 < q.2 := rel_of_pair_infix hascending hnext
    -- An overtaken entry has two template lines before it, so line 0 is not confused with line 1.
    have := hfirst r hr heq
    omega
  · intro hnot r hr heq
    by_contra hlt
    refine hnot ((h.exists_earlier_iff hascending hmax hq).mp ⟨r, hr, ?_, heq⟩)
    omega

end TemplateMap.LineMap
