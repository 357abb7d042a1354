import Mathlib.Algebra.Order.Field.Power
import Mathlib.Data.Rat.Floor
import Mathlib.Tactic.Linarith
import Mathlib.Tactic.NormNum
import Mathlib.Tactic.Positivity
import Mathlib.Tactic.Ring
import TemplateMap.Number.Binary64

/-! Rounding to binary64: a number rounds to the same side of each representable one that it lies
on, so a representable one rounds to itself, a negative number rounds as its opposite does, and a
normal number moves by at most one part in `2 ^ 53`. -/

namespace TemplateMap

/-! ### Rounding to integers -/

theorem abs_roundHalfEven_sub_le (x : Rat) : |(roundHalfEven x : Rat) - x| ≤ 1 / 2 := by
  have hle : (x.floor : Rat) ≤ x := Rat.floor_le x
  have hlt : x < x.floor + 1 := by exact_mod_cast Rat.lt_floor_add_one x
  unfold roundHalfEven
  simp only
  rw [abs_le]
  split
  · constructor <;> linarith
  · split
    · push_cast
      constructor <;> linarith
    · split
      · constructor <;> linarith
      · push_cast
        constructor <;> linarith

theorem roundHalfEven_le {x : Rat} {n : Int} (h : x ≤ n) : roundHalfEven x ≤ n := by
  have herror := (abs_le.mp (abs_roundHalfEven_sub_le x)).2
  have hlt : (roundHalfEven x : Rat) < n + 1 := by linarith
  exact Int.lt_add_one_iff.mp (by exact_mod_cast hlt)

theorem le_roundHalfEven {x : Rat} {n : Int} (h : n ≤ x) : n ≤ roundHalfEven x := by
  have herror := (abs_le.mp (abs_roundHalfEven_sub_le x)).1
  have hlt : (n : Rat) < roundHalfEven x + 1 := by linarith
  exact Int.lt_add_one_iff.mp (by exact_mod_cast hlt)

theorem roundHalfEven_mono {x y : Rat} (h : x ≤ y) : roundHalfEven x ≤ roundHalfEven y := by
  rcases (Rat.floor_monotone h).eq_or_lt with hfloor | hfloor
  · have hrest : x - y.floor ≤ y - y.floor := by linarith
    unfold roundHalfEven
    simp only [hfloor]
    generalize x - y.floor = a at hrest ⊢
    generalize y - y.floor = b at hrest ⊢
    split_ifs <;> first | omega | (exfalso; linarith)
  · have hx : x ≤ (x.floor + 1 : Int) := by exact_mod_cast (Rat.lt_floor_add_one x).le
    calc roundHalfEven x ≤ x.floor + 1 := roundHalfEven_le hx
      _ ≤ y.floor := hfloor
      _ ≤ roundHalfEven y := le_roundHalfEven (Rat.floor_le y)

theorem roundHalfEven_intCast (n : Int) : roundHalfEven n = n :=
  le_antisymm (roundHalfEven_le le_rfl) (le_roundHalfEven le_rfl)

theorem roundHalfEven_neg (x : Rat) : roundHalfEven (-x) = -roundHalfEven x := by
  have hle : (x.floor : Rat) ≤ x := Rat.floor_le x
  have hlt : x < x.floor + 1 := by exact_mod_cast Rat.lt_floor_add_one x
  rcases hle.eq_or_lt with hinteger | hgt
  · rw [← hinteger, ← Int.cast_neg, roundHalfEven_intCast, roundHalfEven_intCast]
  · -- What `-x` is above its floor is what `x` is below the integer after it.
    have hfloor : (-x).floor = -x.floor - 1 := by
      refine Int.floor_eq_iff (a := -x).mpr ?_
      push_cast
      constructor <;> linarith
    have hrest : -x - ((-x.floor - 1 : Int) : Rat) = 1 - (x - x.floor) := by
      push_cast
      ring
    unfold roundHalfEven
    simp only [hfloor, hrest]
    generalize x - x.floor = rest
    split_ifs <;> first | omega | (exfalso; linarith)

theorem roundHalfAway_lt {x : Rat} {n : Int} (hx : 0 ≤ x) :
    roundHalfAway x < n ↔ x + 1 / 2 < n := by
  rw [roundHalfAway, if_pos hx]
  exact Int.floor_lt (a := x + 1 / 2)

theorem roundHalfAway_mono {x y : Rat} (hx : 0 ≤ x) (h : x ≤ y) :
    roundHalfAway x ≤ roundHalfAway y := by
  refine not_lt.mp fun hlt => ?_
  have hhalf := (roundHalfAway_lt (hx.trans h)).mp hlt
  exact lt_irrefl _ ((roundHalfAway_lt hx).mpr ((add_le_add_left h _).trans_lt hhalf))

theorem roundHalfAway_natCast (n : Nat) : roundHalfAway n = n := by
  have hn : (0 : Rat) ≤ n := n.cast_nonneg
  refine le_antisymm (Int.lt_add_one_iff.mp ((roundHalfAway_lt hn).mpr ?_))
    (not_lt.mp fun hlt => ?_)
  · push_cast
    linarith
  · have hhalf := (roundHalfAway_lt hn).mp hlt
    push_cast at hhalf
    linarith

theorem roundHalfAway_neg (x : Rat) : roundHalfAway (-x) = -roundHalfAway x := by
  rcases lt_trichotomy x 0 with hx | rfl | hx
  · rw [roundHalfAway, roundHalfAway, if_pos (by linarith), if_neg (by linarith), neg_neg]
  · have hzero : roundHalfAway 0 = 0 := roundHalfAway_natCast 0
    rw [neg_zero, hzero, neg_zero]
  · rw [roundHalfAway, roundHalfAway, if_neg (by linarith), if_pos hx.le, neg_neg]

/-! ### Powers of two -/

theorem twoPow_pos (e : Int) : 0 < twoPow e := by
  unfold twoPow
  positivity

theorem twoPow_le_twoPow {d e : Int} (h : d ≤ e) : twoPow d ≤ twoPow e :=
  zpow_le_zpow_right₀ (by norm_num) h

theorem twoPow_add (d e : Int) : twoPow (d + e) = twoPow d * twoPow e :=
  zpow_add₀ (by norm_num) d e

theorem twoPow_natCast (n : Nat) : twoPow n = (2 ^ n : Nat) := by
  simp [twoPow]

theorem log2_spec {n : Nat} (h : n ≠ 0) :
    twoPow (Nat.log2 n) ≤ n ∧ n < twoPow (Nat.log2 n + 1) := by
  rw [← Int.natCast_succ, twoPow_natCast, twoPow_natCast]
  exact ⟨Nat.cast_le.mpr (Nat.log2_self_le h), Nat.cast_lt.mpr Nat.lt_log2_self⟩

theorem floorLog2_spec {x : Rat} (h : 0 < x) :
    twoPow (floorLog2 x) ≤ x ∧ x < twoPow (floorLog2 x + 1) := by
  have hnum : x.num.natAbs ≠ 0 := Int.natAbs_ne_zero.mpr (Rat.num_pos.mpr h).ne'
  have hfraction : x * x.den = x.num.natAbs := by
    have hcast : ((x.num.natAbs : Int) : Rat) = x.num :=
      congrArg _ (Int.natAbs_of_nonneg (Rat.num_pos.mpr h).le)
    rw [Rat.mul_den_eq_num, ← hcast, Int.cast_natCast]
  obtain ⟨hnumLow, hnumHigh⟩ := log2_spec hnum
  obtain ⟨hdenLow, hdenHigh⟩ := log2_spec x.den_ne_zero
  rw [← hfraction] at hnumLow hnumHigh
  -- The difference of the two logarithms is off by at most one.
  have hlow : twoPow (Nat.log2 x.num.natAbs - Nat.log2 x.den - 1) ≤ x := by
    refine le_of_mul_le_mul_right ?_ (twoPow_pos (Nat.log2 x.den + 1))
    rw [← twoPow_add, sub_add_add_cancel, sub_add_cancel]
    exact hnumLow.trans (mul_le_mul_of_nonneg_left hdenHigh.le h.le)
  have hhigh : x < twoPow (Nat.log2 x.num.natAbs - Nat.log2 x.den + 1) := by
    refine lt_of_mul_lt_mul_right ?_ (twoPow_pos (Nat.log2 x.den)).le
    rw [← twoPow_add, add_right_comm, sub_add_cancel]
    exact (mul_le_mul_of_nonneg_left hdenLow h.le).trans_lt hnumHigh
  unfold floorLog2
  simp only
  split
  next hle => exact ⟨hle, hhigh⟩
  next hgt => exact ⟨hlow, by rwa [sub_add_cancel, ← not_le]⟩

namespace Binary64

/-- `b` has at most 53 significant bits, none of them below `2 ^ -1074`. -/
def Representable (b : Rat) : Prop :=
  ∃ (n : Nat) (k : Int), n < 2 ^ 53 ∧ -1074 ≤ k ∧ b = n * twoPow k

variable {x b : Rat}

theorem representable_natCast {n : Nat} (h : n < 2 ^ 53) : Representable n :=
  ⟨n, 0, h, by decide, by simp [twoPow]⟩

theorem representable_zero : Representable 0 := by
  exact_mod_cast representable_natCast (n := 0) (by decide)

theorem representable_div {n k : Nat} (h : n < 2 ^ 53) (hk : k ≤ 1074) :
    Representable (n / (2 ^ k : Nat)) :=
  ⟨n, -k, h, by omega, by simp [twoPow, div_eq_mul_inv]⟩

/-- Either `b` is a multiple of the last place of `x`, or it is below all numbers with that last
place. -/
theorem Representable.cases (hb : Representable b) (x : Rat) :
    (∃ n : Int, b = n * twoPow (lastPlace x)) ∨
      b < twoPow (lastPlace x + 52) ∧ -1074 < lastPlace x := by
  obtain ⟨n, k, hn, hk, rfl⟩ := hb
  rcases le_or_gt (lastPlace x) k with hle | hlt
  · obtain ⟨d, hd⟩ := Int.le.dest hle
    refine .inl ⟨n * 2 ^ d, ?_⟩
    rw [← hd, Int.add_comm, twoPow_add, twoPow_natCast]
    push_cast
    ring
  · refine .inr ⟨?_, by omega⟩
    calc (n : Rat) * twoPow k < twoPow 53 * twoPow k := by
          refine mul_lt_mul_of_pos_right ?_ (twoPow_pos k)
          exact_mod_cast (twoPow_natCast 53).symm ▸ (Nat.cast_lt (α := Rat)).mpr hn
      _ = twoPow (53 + k) := (twoPow_add 53 k).symm
      _ ≤ twoPow (lastPlace x + 52) := twoPow_le_twoPow (by omega)

theorem lastPlace_of_pos (hx : 0 < x) : lastPlace x = max (floorLog2 x - 52) (-1074) := by
  simp only [lastPlace, not_lt.mpr hx.le, if_false]

/-- A number with a last place above the least one has all of 53 bits. -/
theorem twoPow_le_of_lastPlace (hx : 0 < x) (h : -1074 < lastPlace x) :
    twoPow (lastPlace x + 52) ≤ x := by
  rw [lastPlace_of_pos hx] at h ⊢
  rw [show max (floorLog2 x - 52) (-1074) + 52 = floorLog2 x by omega]
  exact (floorLog2_spec hx).1

theorem Representable.nonneg (hb : Representable b) : 0 ≤ b := by
  obtain ⟨n, k, -, -, rfl⟩ := hb
  exact mul_nonneg n.cast_nonneg (twoPow_pos k).le

theorem nearest_of_pos (hx : 0 < x) :
    nearest x = roundHalfEven (x / twoPow (lastPlace x)) * twoPow (lastPlace x) := if_neg hx.ne'

/-- A number at or below a representable one rounds to at most that. -/
theorem nearest_le (hx : 0 ≤ x) (hb : Representable b) (h : x ≤ b) : nearest x ≤ b := by
  rcases hx.eq_or_lt with rfl | hx
  · exact h
  have hplace : 0 < twoPow (lastPlace x) := twoPow_pos _
  rw [nearest_of_pos hx]
  rcases hb.cases x with ⟨n, rfl⟩ | ⟨hlt, hnormal⟩
  · refine mul_le_mul_of_nonneg_right ?_ hplace.le
    exact_mod_cast roundHalfEven_le ((div_le_iff₀ hplace).mpr h)
  · exact absurd (h.trans_lt hlt) (not_lt.mpr (twoPow_le_of_lastPlace hx hnormal))

/-- A number at or above a representable one rounds to at least that. -/
theorem le_nearest (hb : Representable b) (h : b ≤ x) : b ≤ nearest x := by
  rcases (hb.nonneg.trans h).eq_or_lt with rfl | hx
  · exact h
  have hplace : 0 < twoPow (lastPlace x) := twoPow_pos _
  rw [nearest_of_pos hx]
  rcases hb.cases x with ⟨n, rfl⟩ | ⟨hlt, hnormal⟩
  · refine mul_le_mul_of_nonneg_right ?_ hplace.le
    exact_mod_cast le_roundHalfEven ((le_div_iff₀ hplace).mpr h)
  · have hround : (2 ^ 52 : Int) ≤ roundHalfEven (x / twoPow (lastPlace x)) := by
      refine le_roundHalfEven ((le_div_iff₀ hplace).mpr ?_)
      have hle := twoPow_le_of_lastPlace hx hnormal
      rw [add_comm, twoPow_add] at hle
      exact hle
    refine hlt.le.trans ?_
    rw [add_comm, twoPow_add]
    refine mul_le_mul_of_nonneg_right ?_ hplace.le
    exact (Int.cast_le (R := Rat)).mpr hround

theorem lastPlace_mono {y : Rat} (hx : 0 < x) (h : x ≤ y) : lastPlace x ≤ lastPlace y := by
  obtain ⟨hlow, -⟩ := floorLog2_spec hx
  obtain ⟨-, hhigh⟩ := floorLog2_spec (hx.trans_le h)
  have hexponent : floorLog2 x < floorLog2 y + 1 :=
    (zpow_lt_zpow_iff_right₀ (by norm_num)).mp ((hlow.trans h).trans_lt hhigh)
  rw [lastPlace_of_pos hx, lastPlace_of_pos (hx.trans_le h)]
  omega

/-- The greater of two numbers rounds to at least as much: either both keep the same last place, or
a power of two lies between them. -/
theorem nearest_mono {y : Rat} (hx : 0 ≤ x) (h : x ≤ y) : nearest x ≤ nearest y := by
  rcases hx.eq_or_lt with rfl | hx
  · exact le_nearest representable_zero h
  have hy : 0 < y := hx.trans_le h
  rcases (lastPlace_mono hx h).eq_or_lt with hplace | hplace
  · rw [nearest_of_pos hx, nearest_of_pos hy, hplace]
    have hpos : 0 < twoPow (lastPlace y) := twoPow_pos _
    refine mul_le_mul_of_nonneg_right ?_ hpos.le
    exact_mod_cast roundHalfEven_mono (div_le_div_of_nonneg_right h hpos.le)
  · -- `y` has all of 53 bits, so its leading one is the power of two between them.
    have hlow : -1074 ≤ lastPlace x := (lastPlace_of_pos hx).symm ▸ le_max_right _ _
    have hpower : Representable (twoPow (lastPlace y + 52)) :=
      ⟨1, lastPlace y + 52, by decide, by omega, by simp⟩
    have hxpower : x ≤ twoPow (lastPlace y + 52) := by
      refine (floorLog2_spec hx).2.le.trans (twoPow_le_twoPow ?_)
      have hfloor := lastPlace_of_pos hx
      omega
    exact (nearest_le hx.le hpower hxpower).trans
      (le_nearest hpower (twoPow_le_of_lastPlace hy (by omega)))

theorem nearest_nonneg (h : 0 ≤ x) : 0 ≤ nearest x := le_nearest representable_zero h

theorem nearest_eq_self (hb : Representable b) : nearest b = b :=
  le_antisymm (nearest_le hb.nonneg hb le_rfl) (le_nearest hb le_rfl)

theorem lastPlace_neg (x : Rat) : lastPlace (-x) = lastPlace x := by
  have hsize : (if -x < 0 then - -x else -x) = if x < 0 then -x else x := by
    split_ifs <;> linarith
  simp only [lastPlace, hsize]

theorem nearest_neg (x : Rat) : nearest (-x) = -nearest x := by
  simp only [nearest, lastPlace_neg, neg_div, roundHalfEven_neg, neg_eq_zero]
  split_ifs
  · exact neg_zero.symm
  · push_cast
    ring

/-- Rounding moves a normal number by at most one part in `2 ^ 53`. -/
theorem abs_nearest_sub_le (hx : twoPow (-1022) ≤ x) : |nearest x - x| ≤ x / 2 ^ 53 := by
  have hpos : 0 < x := (twoPow_pos _).trans_le hx
  have hplace : 0 < twoPow (lastPlace x) := twoPow_pos _
  have hnormal : twoPow (lastPlace x + 52) ≤ x := by
    obtain ⟨hlow, hhigh⟩ := floorLog2_spec hpos
    have hexponent : (-1022 : Int) < floorLog2 x + 1 :=
      (zpow_lt_zpow_iff_right₀ (by norm_num)).mp (hx.trans_lt hhigh)
    rw [lastPlace_of_pos hpos, show max (floorLog2 x - 52) (-1074) + 52 = floorLog2 x by omega]
    exact hlow
  have herror := abs_roundHalfEven_sub_le (x / twoPow (lastPlace x))
  have hscale : nearest x - x =
      (roundHalfEven (x / twoPow (lastPlace x)) - x / twoPow (lastPlace x)) *
        twoPow (lastPlace x) := by
    rw [nearest_of_pos hpos, sub_mul, div_mul_cancel₀ _ hplace.ne']
  rw [twoPow_add, show twoPow 52 = 2 ^ 52 from rfl] at hnormal
  rw [hscale, abs_mul, abs_of_pos hplace]
  calc _ ≤ 1 / 2 * twoPow (lastPlace x) := mul_le_mul_of_nonneg_right herror hplace.le
    _ ≤ x / 2 ^ 53 := by linarith

end Binary64

end TemplateMap
