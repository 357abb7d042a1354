import TemplateMap.Number.Floating
import TemplateMap.Number.Shortest

/-! Conversions of numbers and texts for printing: each has flags, a width, a precision and a
letter. -/

namespace TemplateMap.Program

/-- A conversion. -/
structure Conversion where
  flags : Text
  width : Nat
  precision : Option Nat
  letter : Char

namespace Conversion

/-- Whether a flag is given. -/
def has (c : Conversion) (flag : Char) : Bool := c.flags.contains flag

/-- The conversion with a width that an argument gave; below zero it also asks for the left
side. -/
def withWidth (c : Conversion) (width : Int) : Conversion :=
  { c with
    width := width.natAbs
    flags := if width < 0 then '-' :: c.flags else c.flags }

/-- A text on its side of the width. -/
def padded (c : Conversion) (t : Text) : Text :=
  let missing := List.replicate (c.width - t.length) ' '
  if c.has '-' then t ++ missing else missing ++ t

/-- A text, of which no more is shown than the precision allows. -/
def text (c : Conversion) (t : Text) : Text :=
  c.padded (match c.precision with
    | some n => t.take n
    | none => t)

/-- Digits behind a mark, with zeros between them up to the width where they are asked for. -/
def filled (c : Conversion) (mark digits : Text) : Text :=
  if c.has '0' && !c.has '-' then
    mark ++ List.replicate (c.width - mark.length - digits.length) '0' ++ digits
  else c.padded (mark ++ digits)

/-- A whole number of digits behind a mark; the precision is the least number of digits. -/
def whole (c : Conversion) (mark digits : Text) : Text :=
  match c.precision with
  | some places =>
    let digits := if places = 0 && digits = ['0'] then [] else digits
    c.padded (mark ++ List.replicate (places - digits.length) '0' ++ digits)
  | none => c.filled mark digits

/-- The mark in front of a number that can be negative. -/
def mark (c : Conversion) (negative : Bool) : Text :=
  if negative then ['-'] else if c.has '+' then ['+'] else if c.has ' ' then [' '] else []

/-- A signed number. -/
def signed (c : Conversion) (n : Int) : Text := c.whole (c.mark (n < 0)) (Text.ofNat n.natAbs)

/-- A number without a sign, in the base of the letter. -/
def unsigned (c : Conversion) (n : Nat) : Text :=
  match c.letter with
  | 'o' =>
    let digits := Nat.toDigits 8 n
    if !c.has '#' then c.whole [] digits
    else if n = 0 then { c with precision := c.precision.map (max 1) }.whole [] digits
    else if c.precision.getD 1 ≤ digits.length then c.whole [] ('0' :: digits)
    else c.whole [] digits
  | 'x' => c.whole (if c.has '#' && n ≠ 0 then ['0', 'x'] else []) (Nat.toDigits 16 n)
  | 'X' =>
    c.whole (if c.has '#' && n ≠ 0 then ['0', 'X'] else [])
      ((Nat.toDigits 16 n).map Char.toUpper)
  | _ => c.whole [] (Text.ofNat n)

/-- Digits with a point before the last `places` of them. -/
def pointed (c : Conversion) (places n : Nat) : Text :=
  let digits := Text.ofNat n
  let digits := List.replicate (places + 1 - digits.length) '0' ++ digits
  let fraction := digits.drop (digits.length - places)
  digits.take (digits.length - places) ++
    if fraction.isEmpty && !c.has '#' then [] else '.' :: fraction

/-- A size with a number of places after the point. -/
def fixed (c : Conversion) (places : Nat) (size : Rat) : Text :=
  c.pointed places (roundHalfEven (size * (10 : Rat) ^ places)).toNat

/-- The digits of a size, one more than `places`, and the exponent of the first of them. -/
def leading (places : Nat) (size : Rat) : Nat × Int :=
  if size = 0 then (0, 0)
  else
    let exponent := Binary64.floorLog10 size
    let n := (roundHalfEven (size / (10 : Rat) ^ (exponent - places))).toNat
    if n = Nat.pow 10 (places + 1) then (Nat.pow 10 places, exponent + 1) else (n, exponent)

/-- An exponent behind a letter, with a sign and at least `count` digits. -/
def exponentText (letter : Char) (count : Nat) (exponent : Int) : Text :=
  let digits := Text.ofNat exponent.natAbs
  letter :: (if exponent < 0 then '-' else '+') ::
    List.replicate (count - digits.length) '0' ++ digits

/-- A size with one digit before the point and an exponent. -/
def scientific (c : Conversion) (places : Nat) (size : Rat) : Text :=
  let (n, exponent) := leading places size
  c.pointed places n ++ exponentText 'e' 2 exponent

/-- Digits without the zeros after the point at their end. -/
def withoutZeros (t : Text) : Text :=
  if t.contains '.' then
    (match t.reverse.dropWhile (· = '0') with
      | '.' :: rest => rest
      | rest => rest).reverse
  else t

/-- A size in the shorter one of both ways, with a number of digits that count. -/
def general (c : Conversion) (count : Nat) (size : Rat) : Text :=
  let places := count - 1
  let exponent := (leading places size).2
  let strip (t : Text) : Text := if c.has '#' then t else withoutZeros t
  if -4 ≤ exponent && exponent ≤ places then
    strip (c.fixed (places - exponent).toNat size)
  else
    let (n, exponent) := leading places size
    strip (c.pointed places n) ++ exponentText 'e' 2 exponent

/-- A size in hexadecimal digits, the first of which holds `lead` bits, with an exponent of two. -/
def hexadecimal (c : Conversion) (f : FloatingFormat) (size : Rat) : Text :=
  let count := (f.bits - 1) / 4
  let place := f.lastPlace size
  let n := if size = 0 then 0 else (size / twoPow place).floor.toNat
  let exponent : Int := if size = 0 then 0 else place + (count * 4 : Nat)
  let places := min count (c.precision.getD count)
  let kept := (roundHalfEven ((n : Rat) / (16 : Rat) ^ (count - places))).toNat
  let (kept, exponent) :=
    if Nat.pow 16 (places + 1) ≤ kept then (kept / 16, exponent + 4) else (kept, exponent)
  let digits := Nat.toDigits 16 kept
  let digits := List.replicate (places + 1 - digits.length) '0' ++ digits
  let fraction := match c.precision with
    | some p => digits.drop 1 ++ List.replicate (p - places) '0'
    | none => ((digits.drop 1).reverse.dropWhile (· = '0')).reverse
  digits.take 1 ++ (if fraction.isEmpty && !c.has '#' then [] else '.' :: fraction) ++
    exponentText 'p' 1 exponent

/-- A floating point number of a format. -/
def floating (c : Conversion) (f : FloatingFormat) (x : Floating) : Text :=
  let word (negative : Bool) (t : String) : Text := c.padded (c.mark negative ++ t.toList)
  let places := c.precision.getD 6
  let shown := match x with
    | .infinite negative => word negative "inf"
    | .unordered negative => word negative "nan"
    | .finite negative size =>
      let mark := c.mark negative
      match c.letter.toLower with
      | 'f' => c.filled mark (c.fixed places size)
      | 'e' => c.filled mark (c.scientific places size)
      | 'g' => c.filled mark (c.general (max places 1) size)
      | _ => c.filled (mark ++ ['0', 'x']) (c.hexadecimal f size)
  if c.letter.isUpper then shown.map Char.toUpper else shown

end Conversion

/-- What is wrong with a text in the place of a number. -/
inductive NumberTrouble
  | noNumber
  | unread
  | outOfRange

/-- What a text is read as in the place of a number: a value, whether that is the number written,
and what has not been read, which is all of the text where that writes no number. -/
structure Numeral (α : Type) where
  value : α
  fits : Bool
  rest : Text

namespace Numeral

variable {α : Type}

/-- What is wrong with a text that is read as a number; of two troubles the range comes first or
last. -/
def trouble? (numeral : Numeral α) (rangeFirst : Bool) (t : Text) : Option NumberTrouble :=
  if rangeFirst && !numeral.fits then some .outOfRange
  else if numeral.rest.isEmpty then if numeral.fits then none else some .outOfRange
  else if numeral.rest = t then some .noNumber
  else some .unread

end Numeral

/-- How many numbers a word of 64 bits holds. -/
def wordSize : Nat := 18446744073709551616

/-- The whole number that a text writes, as a signed word of 64 bits holds it, or as one without a
sign does. -/
def wholeOf (isSigned : Bool) (t : Text) : Numeral Int :=
  match Integer.prefix? t with
  | none => ⟨0, true, t⟩
  | some ⟨n, rest⟩ =>
    if isSigned then ⟨Integer.clamped n, Integer.clamped n = n, rest⟩
    else if wordSize ≤ n.natAbs then ⟨(wordSize - 1 : Nat), false, rest⟩
    else ⟨n % wordSize, true, rest⟩

/-- The floating point number that a text writes. -/
def floatingOf (f : FloatingFormat) (t : Text) : Numeral Floating :=
  match f.prefix? t with
  | none => ⟨.finite false 0, true, t⟩
  | some p => ⟨p.value, p.fits, p.rest⟩

end TemplateMap.Program
