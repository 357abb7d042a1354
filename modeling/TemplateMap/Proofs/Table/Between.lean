import Mathlib.Order.Interval.Set.UnorderedInterval
import TemplateMap.Proofs.Number.Binary64
import TemplateMap.Table

/-! The interpolated line between two starts.  The rounded quotient and the rounded product are
monotone and exact at both starts, so the line rises from the one start to the other where the
generated lines ascend.  Rounding does not depend on the sign, so where they descend the line is the
mirror image of an ascending one, and it lies between the generated starts either way. -/

namespace TemplateMap

namespace Segment

/-- The segment with its generated lines moved to start where those of another one start. -/
def startingWith (s other : Segment) : Segment :=
  { s with generated := other.generated, generated_le := other.generated_le }

@[simp] theorem template_startingWith (s other : Segment) :
    (s.startingWith other).template = s.template := rfl

@[simp] theorem generated_startingWith (s other : Segment) :
    (s.startingWith other).generated = other.generated := rfl

end Segment

namespace Table

variable {p n : Segment} {line line' : Int}

theorem between_start (p n : Segment) : between p n p.template = p.generated := by
  have hzero : roundHalfAway 0 = 0 := roundHalfAway_natCast 0
  simp [between, Binary64.nearest, hzero]

section

variable (hstart : p.template < n.template) (hgenerated : p.generated ≤ n.generated)
include hstart hgenerated

theorem between_end : between p n n.template = n.generated := by
  have hwidth : ((n.template - p.template : Int) : Rat) ≠ 0 := by
    exact_mod_cast (Int.sub_pos.mpr (Int.ofNat_lt.mpr hstart)).ne'
  have hone : Binary64.nearest 1 = 1 := by
    exact_mod_cast Binary64.nearest_eq_self (Binary64.representable_natCast (n := 1) (by decide))
  have hspan : ((n.generated - p.generated : Int) : Rat) = (n.generated - p.generated : Nat) := by
    rw [← Int.ofNat_sub hgenerated, Int.cast_natCast]
  have hsmall : n.generated - p.generated < 2 ^ 53 := by
    have hle := n.generated_le
    unfold lastLine at hle
    omega
  simp only [between]
  rw [div_self hwidth, hone, one_mul, hspan,
    Binary64.nearest_eq_self (Binary64.representable_natCast hsmall), roundHalfAway_natCast]
  omega

theorem between_mono (hlow : p.template ≤ line) (h : line ≤ line') :
    between p n line ≤ between p n line' := by
  have hwidth : (0 : Rat) < ((n.template - p.template : Int) : Rat) := by
    exact_mod_cast Int.sub_pos.mpr (Int.ofNat_lt.mpr hstart)
  have hspan : (0 : Rat) ≤ ((n.generated - p.generated : Int) : Rat) := by
    exact_mod_cast Int.sub_nonneg.mpr (Int.ofNat_le.mpr hgenerated)
  have hnonneg : (0 : Rat) ≤ ((line - p.template : Int) : Rat) := by
    exact_mod_cast Int.sub_nonneg.mpr hlow
  have hle : ((line - p.template : Int) : Rat) ≤ ((line' - p.template : Int) : Rat) := by
    exact_mod_cast Int.sub_le_sub_right h _
  have hratio := div_nonneg hnonneg hwidth.le
  have hshare := Binary64.nearest_mono hratio (div_le_div_of_nonneg_right hle hwidth.le)
  have hproduct := mul_nonneg (Binary64.nearest_nonneg hratio) hspan
  have hoffset := Binary64.nearest_mono hproduct (mul_le_mul_of_nonneg_right hshare hspan)
  exact Int.add_le_add_left (roundHalfAway_mono (Binary64.nearest_nonneg hproduct) hoffset) _

theorem between_mem (hlow : p.template ≤ line) (hhigh : line ≤ n.template) :
    p.generated ≤ between p n line ∧ between p n line ≤ n.generated := by
  constructor
  · rw [← between_start p n]
    exact between_mono hstart hgenerated (Int.le_refl _) hlow
  · rw [← between_end hstart hgenerated]
    exact between_mono hstart hgenerated hlow hhigh

end

/-- Exchanging the generated starts mirrors the line at the middle between them. -/
theorem between_startingWith (p n : Segment) (line : Int) :
    between (p.startingWith n) (n.startingWith p) line =
      p.generated + n.generated - between p n line := by
  have hspan : ((p.generated - n.generated : Int) : Rat) =
      -((n.generated - p.generated : Int) : Rat) := by
    push_cast
    ring
  simp only [between, Segment.template_startingWith, Segment.generated_startingWith, hspan,
    mul_neg, Binary64.nearest_neg, roundHalfAway_neg]
  omega

/-- Whichever way the generated lines run, the line lies between those of the two starts. -/
theorem between_mem_uIcc (hstart : p.template < n.template) (hlow : p.template ≤ line)
    (hhigh : line ≤ n.template) :
    between p n line ∈ Set.uIcc (p.generated : Int) n.generated := by
  rcases Nat.le_total p.generated n.generated with hgenerated | hgenerated
  · exact Set.mem_uIcc.mpr (.inl (between_mem hstart hgenerated hlow hhigh))
  · have hmirrored := between_mem (p := p.startingWith n) (n := n.startingWith p)
      hstart hgenerated hlow hhigh
    rw [between_startingWith, Segment.generated_startingWith, Segment.generated_startingWith]
      at hmirrored
    exact Set.mem_uIcc.mpr (.inr ⟨by omega, by omega⟩)

end Table

end TemplateMap
