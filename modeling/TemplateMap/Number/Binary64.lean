/-! Binary floating point of 64 bits as exact rational arithmetic: each operation is the exact one
followed by `nearest`, the rounding to 53 significant bits, so that laws of the operations are laws
of rational numbers. -/

namespace TemplateMap

/-- The integer next to `x`; of two that are equally near, the even one. -/
def roundHalfEven (x : Rat) : Int :=
  let low := x.floor
  let rest := x - low
  if rest < 1 / 2 then low
  else if 1 / 2 < rest then low + 1
  else if low % 2 = 0 then low
  else low + 1

/-- The integer next to `x`; of two that are equally near, the one farther from zero. -/
def roundHalfAway (x : Rat) : Int :=
  if 0 ≤ x then (x + 1 / 2).floor else -(-x + 1 / 2).floor

/-- The power of two with exponent `e`. -/
def twoPow (e : Int) : Rat := (2 : Rat) ^ e

/-- The greatest `e` with `2 ^ e ≤ x`, for a positive `x`. -/
def floorLog2 (x : Rat) : Int :=
  let e : Int := (Nat.log2 x.num.natAbs : Int) - (Nat.log2 x.den : Int)
  if twoPow e ≤ x then e else e - 1

namespace Binary64

/-- The exponent of the last place that a number of the size of `x` keeps: 53 significant bits, and
none below `2 ^ -1074`. -/
def lastPlace (x : Rat) : Int :=
  let size := if x < 0 then -x else x
  max (floorLog2 size - 52) (-1074)

/-- The binary64 number nearest to `x`, without an upper bound on its size; ties go to the even
significand. -/
def nearest (x : Rat) : Rat :=
  if x = 0 then 0 else roundHalfEven (x / twoPow (lastPlace x)) * twoPow (lastPlace x)

/-- Every finite number is below this one in size. -/
def overflowBound : Rat := twoPow 1024

end Binary64

/-- A binary64 number: a finite one with its size, or an infinite one, both with a sign that zero
has too; or what stands for no number. -/
inductive Binary64
  | finite (negative : Bool) (magnitude : Rat)
  | infinite (negative : Bool)
  | unordered
  deriving DecidableEq

namespace Binary64

/-- The rational number that `b` stands for, if it is finite. -/
def value? : Binary64 → Option Rat
  | .finite negative magnitude => some (if negative then -magnitude else magnitude)
  | .infinite _ | .unordered => none

/-- The number nearest to the decimal `digits * 10 ^ exponent`. -/
def ofDecimal (negative : Bool) (digits : Nat) (exponent : Int) : Binary64 :=
  .finite negative (nearest (digits * (10 : Rat) ^ exponent))

/-- The greatest share: what a word of 64 bits holds. -/
def maxShare : Nat := 18446744073709551615

/-- The share `b` of `total` things, rounded down to a word of 64 bits: none where the product is
below zero or no number, and as many as the word holds where it is past that. -/
def shareOf (b : Binary64) (total : Nat) : Nat :=
  match b with
  | .unordered | .infinite true => 0
  | .infinite false => if total = 0 then 0 else maxShare
  | .finite negative magnitude =>
    if negative then 0 else min (nearest (nearest total * magnitude)).floor.toNat maxShare

end Binary64

end TemplateMap
