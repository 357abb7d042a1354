import TemplateMap.Number.Binary64
import TemplateMap.Number.Integer

/-! Floating point numbers of any size: how texts write them, and the numbers that a format of so
many bits has in their place. -/

namespace TemplateMap

/-- A format of floating point numbers. -/
structure FloatingFormat where
  /-- How many significant bits a number has. -/
  bits : Nat
  /-- The exponent of the last place of the least numbers. -/
  leastPlace : Int
  /-- The power of two with this exponent is above all numbers. -/
  bound : Int

/-- A floating point number: its size and a sign that all have. -/
inductive Floating
  | finite (negative : Bool) (size : Rat)
  | infinite (negative : Bool)
  | unordered (negative : Bool)

namespace FloatingFormat

/-- The numbers of 64 bits. -/
def double : FloatingFormat := ⟨53, -1074, 1024⟩

/-- The numbers of 80 bits. -/
def extended : FloatingFormat := ⟨64, -16445, 16384⟩

/-- The exponent of the last place that a number of the size `x` keeps. -/
def lastPlace (f : FloatingFormat) (x : Rat) : Int :=
  max (floorLog2 x - (f.bits - 1 : Nat)) f.leastPlace

/-- The size next to `x`, without a bound; of two that are equally near, the even one. -/
def nearest (f : FloatingFormat) (x : Rat) : Rat :=
  if x = 0 then 0 else roundHalfEven (x / twoPow (f.lastPlace x)) * twoPow (f.lastPlace x)

end FloatingFormat

/-- A number at the start of a text, and the rest. -/
structure FloatingPrefix where
  value : Floating
  /-- The format has a number of this size. -/
  fits : Bool
  rest : Text

/-- Digits with a point among them, and a power of the base behind them. -/
structure Significand where
  digits : Text
  /-- How many of the digits come after the point. -/
  places : Nat
  exponent : Int
  rest : Text

namespace Significand

/-- The exponent behind a letter, if there is one, and the rest. -/
def exponentAfter (letter : Char) (t : Text) : Int × Text :=
  match t with
  | c :: rest =>
    if c.toLower = letter then
      let (negative, digits) := Integer.sign rest
      match Integer.digits? 10 Char.isDigit digits with
      | some (n, rest) => (if negative then -(n : Int) else n, rest)
      | none => (0, t)
    else (0, t)
  | [] => (0, t)

/-- The digits at the start of a text, if there are some. -/
def prefix? (isDigit : Char → Bool) (letter : Char) (t : Text) : Option Significand :=
  let (whole, rest) := t.span isDigit
  let (fraction, rest) := match rest with
    | '.' :: after => let (fraction, after) := after.span isDigit; (fraction, after)
    | _ => ([], rest)
  if whole.isEmpty && fraction.isEmpty then none
  else
    let (exponent, rest) := exponentAfter letter rest
    some ⟨whole ++ fraction, fraction.length, exponent, rest⟩

end Significand

namespace FloatingFormat

/-- The number in the place of one of the size `x`, and whether it is a number of that size. -/
def rounded (f : FloatingFormat) (negative : Bool) (x : Rat) : Floating × Bool :=
  let size := f.nearest x
  if twoPow f.bound ≤ size then (.infinite negative, false)
  else
    let isTiny := x < twoPow (f.leastPlace + (f.bits - 1 : Nat))
    (.finite negative size, !(isTiny && size ≠ x))

/-- The number that digits write in a base whose digits have `weight` powers of `root` each, the
exponent being one of `root`. -/
def ofSignificand (f : FloatingFormat) (negative : Bool) (base root weight : Nat)
    (s : Significand) : Floating × Bool :=
  let digits := s.digits.dropWhile (· = '0')
  let exponent := s.exponent - (s.places * weight : Nat)
  let size := exponent + (digits.length * weight : Nat)
  if digits.isEmpty then (.finite negative 0, true)
  else if 20000 < size then (.infinite negative, false)
  else if size < -20000 then (.finite negative 0, false)
  else f.rounded negative (Integer.ofDigits base digits * (root : Rat) ^ exponent)

/-- The rest of a text that starts with a word, in any letter case. -/
def afterWord? (word : String) (t : Text) : Option Text :=
  if Text.asciiLower (t.take word.length) = word.toList then some (t.drop word.length) else none

/-- The rest after what may stand in parentheses behind the word for no number. -/
def afterPayload (t : Text) : Text :=
  match t with
  | '(' :: inside =>
    match inside.dropWhile fun c => c.isAlphanum || c = '_' with
    | ')' :: rest => rest
    | _ => t
  | _ => t

/-- The number at the start of a text, after its sign. -/
def unsigned? (f : FloatingFormat) (negative : Bool) (t : Text) : Option FloatingPrefix :=
  let decimal : Option FloatingPrefix :=
    (Significand.prefix? Char.isDigit 'e' t).map fun s =>
      let (value, fits) := f.ofSignificand negative 10 10 1 s
      ⟨value, fits, s.rest⟩
  let hexadecimal : Option FloatingPrefix :=
    match t with
    | '0' :: x :: rest =>
      if x = 'x' || x = 'X' then
        (Significand.prefix? Integer.isHexDigit 'p' rest).map fun s =>
          let (value, fits) := f.ofSignificand negative 16 2 4 s
          ⟨value, fits, s.rest⟩
      else none
    | _ => none
  let word : Option FloatingPrefix :=
    ((afterWord? "infinity" t).or (afterWord? "inf" t)).map fun rest =>
      ⟨.infinite negative, true, rest⟩
  let noNumber : Option FloatingPrefix :=
    (afterWord? "nan" t).map fun rest => ⟨.unordered negative, true, afterPayload rest⟩
  ((hexadecimal.or decimal).or word).or noNumber

/-- The number at the start of a text, which blanks and a sign may come before. -/
def prefix? (f : FloatingFormat) (t : Text) : Option FloatingPrefix :=
  let (negative, t) := Integer.sign (t.dropWhile Integer.isBlank)
  f.unsigned? negative t

end FloatingFormat

end TemplateMap
