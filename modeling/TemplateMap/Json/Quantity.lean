import TemplateMap.Json.Reader
import TemplateMap.Number.Scaled

/-! Quantities: what a written number stands for, an integer where its form and size allow one and a
binary64 number otherwise. -/

namespace TemplateMap.Json

/-- What a number stands for. -/
inductive Quantity
  | integer (value : Int)
  | float (value : Binary64)
  deriving DecidableEq

/-- The greatest significand. -/
def maxSignificand : Nat := 18446744073709551615

/-- The greatest exponent. -/
def maxExponent : Nat := 2147483647

/-- The number that digits write after `acc`, as far as it stays within `bound`, and the digits from
the first one on that would take it past. -/
def accumulate (bound acc : Nat) : List Nat → Nat × List Nat
  | [] => (acc, [])
  | d :: rest =>
    if acc * 10 + d ≤ bound then accumulate bound (acc * 10 + d) rest else (acc, d :: rest)

/-- A quantity that is too large, with the number of digits after the one that shows it. -/
structure TooLarge where
  unread : Nat

namespace Numeral

/-- The integer of a number without fraction and exponent, if a word of 64 bits holds it: an
unsigned one, or a signed one after a minus sign.  Zero after a minus sign is none. -/
def integer? (n : Numeral) : Option Int :=
  match n.fraction, n.exponent, accumulate maxSignificand 0 n.whole with
  | none, none, (value, []) =>
    if !n.negative then some value
    else if value = 0 ∨ 9223372036854775808 < value then none
    else some (-value)
  | _, _, _ => none

/-- The significand and the power of ten of a number, its exponent apart.  Digits that no longer fit
count as zeros. -/
def significand (n : Numeral) : Nat × Int :=
  let (whole, dropped) := accumulate maxSignificand 0 n.whole
  let fraction := n.fraction.getD []
  let (value, ignored) := accumulate maxSignificand whole fraction
  (value, (dropped.length : Int) - (fraction.length - ignored.length : Nat))

/-- The binary64 number that a number stands for. -/
def float (n : Numeral) : Except TooLarge Binary64 :=
  let (value, power) := n.significand
  let scale (exponent : Int) : Except TooLarge Binary64 :=
    match Binary64.ofScaled n.negative value (power + exponent) with
    | some x => .ok x
    | none => .error ⟨0⟩
  match n.exponent with
  | none => scale 0
  | some (negative, digits) =>
    match accumulate maxExponent 0 digits with
    | (exponent, []) => scale (if negative then -exponent else exponent)
    | (_, unread) =>
      if value ≠ 0 && !negative then .error ⟨unread.length - 1⟩ else .ok (.finite n.negative 0)

/-- What a number stands for. -/
def quantity (n : Numeral) : Except TooLarge Quantity :=
  match n.integer? with
  | some value => .ok (.integer value)
  | none => n.float.map .float

end Numeral

/-- Reads a number. -/
def quantity : Reader Quantity := fun bytes => do
  let n ← numeral .endInValue bytes
  match n.value.quantity with
  | .ok q => return n.map fun _ => q
  | .error e => .error ⟨.numberOutOfRange, n.rest.length + e.unread⟩

end TemplateMap.Json
