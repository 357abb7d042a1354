import TemplateMap.Number.Binary64
import TemplateMap.Text.Basic

/-! Decimal texts of binary64 numbers: the fewest significant digits that read back as the number,
and the ways to write them. -/

namespace TemplateMap.Binary64

/-- The greatest `e` with `10 ^ e ≤ x`, for a positive `x`. -/
def floorLog10 (x : Rat) : Int :=
  let guess := floorLog2 x * 30103 / 100000
  if (10 : Rat) ^ (guess + 1) ≤ x then guess + 1
  else if x < (10 : Rat) ^ guess then guess - 1
  else guess

/-- A decimal number: `digits * 10 ^ exponent`. -/
structure Decimal where
  digits : Nat
  exponent : Int
  deriving DecidableEq

/-- The rational number that a decimal stands for. -/
def Decimal.value (d : Decimal) : Rat := d.digits * (10 : Rat) ^ d.exponent

/-- The decimal with `count` significant digits that reads back as `x` and is nearest to it, if one
reads back. -/
def decimalOf? (x : Rat) (count : Nat) : Option Decimal :=
  let exponent := floorLog10 x - (count : Int) + 1
  let low : Decimal := ⟨(x / (10 : Rat) ^ exponent).floor.toNat, exponent⟩
  let high : Decimal := ⟨low.digits + 1, exponent⟩
  let readsBack (d : Decimal) : Bool := nearest d.value == x
  match readsBack low, readsBack high with
  | false, false => none
  | true, false => some low
  | false, true => some high
  | true, true =>
    let below := x - low.value
    let above := high.value - x
    if below < above then some low
    else if above < below then some high
    else if low.digits % 2 = 0 then some low
    else some high

/-- The decimal without the zeros at the end of its digits. -/
def Decimal.stripped (d : Decimal) : Decimal :=
  let zeros := ((Text.ofNat d.digits).reverse.takeWhile (· == '0')).length
  if d.digits = 0 then ⟨0, 0⟩ else ⟨d.digits / Nat.pow 10 zeros, d.exponent + zeros⟩

/-- The shortest decimal that reads back as the positive number `x`; seventeen digits always do. -/
def shortest (x : Rat) : Decimal :=
  let counts := (List.range 17).map (· + 1)
  ((counts.findSome? (decimalOf? x)).getD ⟨0, 0⟩).stripped

/-- The decimal with a point where it belongs and zeros on either side where digits are missing;
`whole` is what follows a number without a fraction. -/
def Decimal.positional (d : Decimal) (whole : Text) : Text :=
  let digits := Text.ofNat d.digits
  match d.exponent with
  | .ofNat zeros => digits ++ List.replicate zeros '0' ++ whole
  | .negSucc k =>
    let places := k + 1
    let padded := List.replicate (places + 1 - digits.length) '0' ++ digits
    padded.take (padded.length - places) ++ '.' :: padded.drop (padded.length - places)

/-- The decimal with one digit before the point and the exponent, which has a sign, after a
letter. -/
def Decimal.scientific (d : Decimal) : Text :=
  let digits := Text.ofNat d.digits
  let exponent := d.exponent + (digits.length : Int) - 1
  let rest := digits.drop 1
  digits.take 1 ++ (if rest.isEmpty then [] else '.' :: rest) ++
    'e' :: (if exponent < 0 then '-' else '+') :: Text.ofNat exponent.natAbs

/-- The minus sign of a negative number, zero included. -/
def sign (negative : Bool) : Text := if negative then ['-'] else []

/-- The number written out in full, without an exponent and without a fraction that is zero. -/
def plain : Binary64 → Text
  | .finite negative magnitude =>
    sign negative ++ (if magnitude = 0 then ['0'] else (shortest magnitude).positional [])
  | .infinite negative => sign negative ++ "inf".toList
  | .unordered => "NaN".toList

/-- The number as a data format writes it: always with a point or an exponent, and an exponent only
below `10 ^ -5` and from `10 ^ 16` on.  What is not finite is written as nothing. -/
def pointed : Binary64 → Text
  | .finite negative magnitude =>
    sign negative ++
      if magnitude = 0 then ['0', '.', '0']
      else
        let d := shortest magnitude
        let point := (Text.ofNat d.digits).length + d.exponent
        if -5 < point && point ≤ 16 then d.positional ['.', '0'] else d.scientific
  | .infinite _ | .unordered => "null".toList

end TemplateMap.Binary64
