import TemplateMap.Number.Binary64

/-! Decimals read in two rounded steps: a significand is multiplied or divided by a power of ten
that is itself rounded.  Up to fifteen digits and a power up to `10 ^ 22` the result is the nearest
number; past that it may be one of its neighbours. -/

namespace TemplateMap.Binary64

/-- The greatest power of ten that one step takes. -/
def maxPower : Nat := 308

/-- The power of ten nearest to `10 ^ n`. -/
def tenPow (n : Nat) : Rat := nearest ((10 : Rat) ^ n)

/-- The number `x * 10 ^ exponent`, rounded after each step; none when it is too large. -/
def scaled (x : Rat) (exponent : Int) : Option Rat :=
  if exponent.natAbs ≤ maxPower then
    if 0 ≤ exponent then
      let product := nearest (x * tenPow exponent.natAbs)
      if overflowBound ≤ product then none else some product
    else some (nearest (x / tenPow exponent.natAbs))
  else if x = 0 then some 0
  else if 0 ≤ exponent then none
  else scaled (nearest (x / tenPow maxPower)) (exponent + maxPower)
termination_by (-exponent).toNat
decreasing_by all_goals simp_all only [maxPower]; omega

/-- The number that a significand and a power of ten give; none when it is too large. -/
def ofScaled (negative : Bool) (significand : Nat) (exponent : Int) : Option Binary64 :=
  (scaled (nearest significand) exponent).map fun magnitude => .finite negative magnitude

end TemplateMap.Binary64
