import TemplateMap.Program.Locale

/-! Quoted texts: those that a shell reads back, quoted only where that needs it, and those in
messages.  Texts are bytes, one character for each. -/

namespace TemplateMap.Program

namespace Quote

open TemplateMap.Program.Locale (Character)

/-- The letter for a control character after a backslash, if it has one. -/
def letter? (c : Char) : Option Char :=
  [('\x07', 'a'), ('\x08', 'b'), ('\x0c', 'f'), ('\n', 'n'), ('\r', 'r'), ('\t', 't'),
    ('\x0b', 'v')].lookup c

/-- The three octal digits of a byte. -/
def octal (c : Char) : Text :=
  let digit (n : Nat) : Char := Char.ofNat (48 + n % 8)
  [digit (c.toNat / 64), digit (c.toNat / 8), digit c.toNat]

/-- A byte that does not show, after a backslash. -/
def hidden (c : Char) : Text := '\\' :: ((letter? c).map fun l => [l]).getD (octal c)

/-- The bytes of the quotes that open and close a text in messages. -/
def marks (l : Locale) : Text × Text :=
  if l.isWide then (Latin1.ofText ['\u2018'], Latin1.ofText ['\u2019']) else (['\''], ['\''])

/-- A text between quotes as messages have it. -/
def inMessage (l : Locale) (t : Text) : Text :=
  let (before, after) := marks l
  let shown (x : Character) : Text :=
    if x.bytes = after || x.bytes = ['\\'] then '\\' :: x.bytes
    else if x.shows then x.bytes
    else x.bytes.flatMap hidden
  before ++ (l.characters t).flatMap shown ++ after

/-- Whether a character stands for itself in a shell, wherever it is. -/
def isPlain (x : Character) : Bool :=
  x.code.any fun c =>
    c.isAlphanum || "%+,-./:]_@".toList.contains c || (127 < c.toNat && x.shows)

/-- Whether a character is a certain one of the ASCII ones. -/
def isChar (c : Char) (x : Character) : Bool := x.code = some c

/-- Whether a shell reads a text as it is; with `inName` a colon is not left alone. -/
def isBare (inName : Bool) (t : List Character) : Bool :=
  let isSpecial (x : Character) : Bool :=
    !isPlain x && !(['#', '~', '\x7b', '\x7d'].any (isChar · x))
  let isOnly (c : Char) : Bool := t.length = 1 && t.any (isChar c)
  !t.isEmpty && !t.any isSpecial && !t.head?.any (isChar '#') && !t.head?.any (isChar '~') &&
    !isOnly '\x7b' && !isOnly '\x7d' && !(inName && t.any (isChar ':'))

/-- Whether a text keeps its meaning between double quotes and shows there as it is. -/
def isGentle (t : List Character) : Bool :=
  let isFirst := t.head?.all fun x => isPlain x || " '#~".toList.any (isChar · x)
  isFirst && (t.drop 1).all fun x => isPlain x || isChar ' ' x || isChar '\'' x

/-- A text between single quotes; the bytes that do not show stand between quotes of their own, in
which one is when `inHidden` holds. -/
def inSingle (inHidden : Bool) : List Character → Text
  | [] => ['\'']
  | x :: rest =>
    if isChar '\'' x then "'\\''".toList ++ inSingle false rest
    else if x.shows then (if inHidden then ['\'', '\''] else []) ++ x.bytes ++ inSingle false rest
    else
      (if inHidden then [] else ['\'', '$', '\'']) ++ x.bytes.flatMap hidden ++ inSingle true rest

/-- A text as a shell reads it back, quoted only where that needs it. -/
def forShell (l : Locale) (inName : Bool) (t : Text) : Text :=
  let characters := l.characters t
  if isBare inName characters then t
  else if t.contains '\'' && isGentle characters then '"' :: t ++ ['"']
  else '\'' :: inSingle false characters

end Quote

end TemplateMap.Program
