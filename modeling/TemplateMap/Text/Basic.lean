/-! Texts as lists of characters: classes of characters, cutting at a character, lines, white space
at the ends, and first occurrences.  The laws of a reader are then laws of lists. -/

namespace TemplateMap

/-- A text, one character after the other. -/
abbrev Text := List Char

/-- Where `part` first occurs in `whole`: the number of elements before it. -/
def firstOccurrence? {α : Type} [BEq α] (part : List α) : List α → Option Nat
  | [] => if part.isEmpty then some 0 else none
  | c :: rest =>
    if part.isPrefixOf (c :: rest) then some 0 else (firstOccurrence? part rest).map (· + 1)

/-- Whether `part` occurs in `whole`. -/
def occursIn {α : Type} [BEq α] (part whole : List α) : Bool :=
  (firstOccurrence? part whole).isSome

/-- Whether the code point of `c` lies in one of the ranges, both ends included. -/
def inRanges (ranges : List (Nat × Nat)) (c : Char) : Bool :=
  ranges.any fun (low, high) => low ≤ c.toNat && c.toNat ≤ high

/-- The characters of the Unicode property White_Space. -/
def isBlank (c : Char) : Bool :=
  let n := c.toNat
  (9 ≤ n && n ≤ 13) || n == 0x20 || n == 0x85 || n == 0xa0 || n == 0x1680 ||
    (0x2000 ≤ n && n ≤ 0x200a) || n == 0x2028 || n == 0x2029 || n == 0x202f || n == 0x205f ||
    n == 0x3000

namespace Text

/-- The string of a text. -/
def str (t : Text) : String := String.ofList t

/-- The text before and after the first character in the class `p`, which belongs to neither. -/
def cut? (p : Char → Bool) : Text → Option (Text × Text)
  | [] => none
  | c :: rest => if p c then some ([], rest) else (cut? p rest).map fun (a, b) => (c :: a, b)

/-- The part after the last character in the class `p`: the whole text if there is none. -/
def afterLast (p : Char → Bool) (t : Text) : Text :=
  (t.reverse.takeWhile fun c => !p c).reverse

/-- A line without the one carriage return at its end, if there is one. -/
def dropCarriageReturn (line : Text) : Text :=
  match line.reverse with
  | '\r' :: rest => rest.reverse
  | _ => line

/-- The pieces that end at each line feed, line feed included; a last piece without one is kept when
it is not empty, so the pieces joined are the text. -/
def pieces : Text → List Text
  | [] => []
  | c :: rest =>
    if c = '\n' then [c] :: pieces rest
    else
      match pieces rest with
      | [] => [[c]]
      | p :: ps => (c :: p) :: ps

/-- A piece without its line ending, which is a line feed or a carriage return and a line feed. -/
def dropLineEnd (piece : Text) : Text :=
  match piece.reverse with
  | '\n' :: rest => dropCarriageReturn rest.reverse
  | _ => piece

/-- The lines of a text: line feeds end them, alone or after a carriage return. -/
def lines (t : Text) : List Text := (pieces t).map dropLineEnd

/-- The text without the white space at its start. -/
def trimStart (t : Text) : Text := t.dropWhile isBlank

/-- The text without the white space at its end. -/
def trimEnd (t : Text) : Text := (t.reverse.dropWhile isBlank).reverse

/-- The text without the white space at its two ends. -/
def trim (t : Text) : Text := (trimStart t).trimEnd

/-- The text with each `a` turned into `b`. -/
def swap (a b : Char) (t : Text) : Text := t.map fun c => if c = a then b else c

/-- ASCII letters in lower case, all else as it is. -/
def asciiLower (t : Text) : Text := t.map Char.toLower

/-- The texts one after the other, with `sep` between two of them. -/
def joined (sep : Text) : List Text → Text
  | [] => []
  | [t] => t
  | t :: rest => t ++ sep ++ joined sep rest

/-- The decimal digits of a number. -/
def ofNat (n : Nat) : Text := Nat.toDigits 10 n

/-- The decimal digits of a number, after a minus sign when it is negative. -/
def ofInt (n : Int) : Text :=
  if n < 0 then '-' :: ofNat n.natAbs else ofNat n.natAbs

/-- The value of a run of decimal digits read from the left, `acc` being the value so far. -/
def digitsValue (acc : Nat) : Text → Nat
  | [] => acc
  | c :: rest => digitsValue (acc * 10 + (c.toNat - '0'.toNat)) rest

/-- The number that a non-empty run of ASCII digits writes, leading zeros allowed, if it is at most
`bound`. -/
def number? (bound : Nat) (t : Text) : Option Nat :=
  if t.isEmpty || !t.all Char.isDigit then none
  else if digitsValue 0 t ≤ bound then some (digitsValue 0 t) else none

end Text

end TemplateMap
