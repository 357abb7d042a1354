import TemplateMap.Text.Basic

/-! Whole numbers as programs read them: blanks, a sign, a base that the first digits tell, and
digits, cut off at the bounds of a word of 64 bits. -/

namespace TemplateMap

namespace Integer

/-- The least integer that a signed word of 64 bits holds. -/
def least : Int := -9223372036854775808

/-- The greatest integer that a signed word of 64 bits holds. -/
def greatest : Int := 9223372036854775807

/-- The integer that a signed word of 64 bits holds in place of `n`. -/
def wrapped (n : Int) : Int := (n - least) % 18446744073709551616 + least

/-- The integer next to `n` that a signed word of 64 bits holds. -/
def clamped (n : Int) : Int := max least (min greatest n)

/-- Whether a character is a blank in front of a number. -/
def isBlank (c : Char) : Bool := c = ' ' || ('\t' ≤ c && c ≤ '\r')

/-- Whether a character is a hexadecimal digit. -/
def isHexDigit (c : Char) : Bool :=
  c.isDigit || ('a' ≤ c && c ≤ 'f') || ('A' ≤ c && c ≤ 'F')

/-- Whether a character is an octal digit. -/
def isOctalDigit (c : Char) : Bool := '0' ≤ c && c ≤ '7'

/-- The value of a digit. -/
def digitValue (c : Char) : Nat :=
  if c.isDigit then c.toNat - 48 else if c.isLower then c.toNat - 87 else c.toNat - 55

/-- The value of digits in a base. -/
def ofDigits (base : Nat) (digits : Text) : Nat :=
  digits.foldl (fun n c => n * base + digitValue c) 0

/-- The sign in front of a number, and the rest. -/
def sign : Text → Bool × Text
  | '-' :: rest => (true, rest)
  | '+' :: rest => (false, rest)
  | t => (false, t)

/-- A number at the start of a text: without its bounds, and what comes after it. -/
structure Prefixed where
  value : Int
  rest : Text

/-- The digits of a class at the start of a text as a number in a base, if there are some. -/
def digits? (base : Nat) (isDigit : Char → Bool) (t : Text) : Option (Nat × Text) :=
  let (digits, rest) := t.span isDigit
  if digits.isEmpty then none else some (ofDigits base digits, rest)

/-- The digits at the start of a text, in the base that the first of them tell. -/
def unsigned? (t : Text) : Option (Nat × Text) :=
  match t with
  | '0' :: x :: rest =>
    if (x = 'x' || x = 'X') && rest.head?.any isHexDigit then digits? 16 isHexDigit rest
    else digits? 8 isOctalDigit t
  | '0' :: _ => digits? 8 isOctalDigit t
  | _ => digits? 10 Char.isDigit t

/-- The number at the start of a text that `read?` reads after blanks and a sign. -/
def signed? (read? : Text → Option (Nat × Text)) (t : Text) : Option Prefixed :=
  let (negative, digits) := sign (t.dropWhile isBlank)
  (read? digits).map fun (n, rest) => ⟨if negative then -(n : Int) else n, rest⟩

/-- The number at the start of a text, whose first digits tell its base. -/
def prefix? (t : Text) : Option Prefixed := signed? unsigned? t

/-- The decimal number at the start of a text. -/
def decimalPrefix? (t : Text) : Option Prefixed := signed? (digits? 10 Char.isDigit) t

end Integer

end TemplateMap
