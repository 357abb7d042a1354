import TemplateMap.Number.Integer
import TemplateMap.Text.Utf8

/-! Locales: how the variables that a program is given say that the bytes of texts are to be taken,
each for itself or as the encodings of characters. -/

namespace TemplateMap.Program

/-- How a program takes texts. -/
structure Locale where
  /-- Bytes encode characters. -/
  isWide : Bool
  deriving DecidableEq

namespace Locale

/-- Each byte is a character. -/
def narrow : Locale := ⟨false⟩

/-- What a locale is called may name: whether its texts are wide, if there is such a locale. -/
def named? (name : Text) : Option Locale :=
  match name with
  | ['C'] => some narrow
  | ['P', 'O', 'S', 'I', 'X'] => some narrow
  | 'C' :: '.' :: encoding =>
    if (Text.asciiLower encoding).filter Char.isAlphanum = "utf8".toList then some ⟨true⟩ else none
  | _ => none

/-- The variables that name a locale for one matter each. -/
def matters : List String :=
  ["LC_CTYPE", "LC_NUMERIC", "LC_TIME", "LC_COLLATE", "LC_MONETARY", "LC_MESSAGES", "LC_PAPER",
    "LC_NAME", "LC_ADDRESS", "LC_TELEPHONE", "LC_MEASUREMENT", "LC_IDENTIFICATION"]

/-- The locale that variables ask for; where there is none for some matter, all texts are narrow. -/
def ofEnvironment (environment : List (Text × Text)) : Locale :=
  let value (name : String) : Option Text :=
    (environment.lookup name.toList).bind fun t => if t.isEmpty then none else some t
  let chosen (matter : String) : Option Locale :=
    named? ((((value "LC_ALL").or (value matter)).or (value "LANG")).getD ['C'])
  if matters.all fun matter => (chosen matter).isSome then (chosen "LC_CTYPE").getD narrow
  else narrow

/-- Whether a character past the ASCII ones shows. -/
def showsWide (c : Char) : Bool :=
  let n := c.toNat
  160 ≤ n && n ≠ 0x2028 && n ≠ 0x2029 && !(n % 0x10000 = 0xfffe || n % 0x10000 = 0xffff)

/-- A character of a text with the bytes that it is; bytes that encode none have no code. -/
structure Character where
  code : Option Char
  bytes : Text

namespace Character

/-- Whether a character shows. -/
def shows (x : Character) : Bool :=
  x.code.any fun c => (' ' ≤ c && c ≤ '~') || showsWide c

end Character

/-- The first character of a text, and the rest. -/
def first (l : Locale) (c : Char) (rest : Text) : Character × Text :=
  if c.toNat < 128 then (⟨some c, [c]⟩, rest)
  else if !l.isWide then (⟨none, [c]⟩, rest)
  else
    match Utf8.next (UInt8.ofNat c.toNat) (Latin1.encode (rest.take 3)) with
    | (some wide, left) =>
      let used := min 3 rest.length - left.length
      (⟨some wide, c :: rest.take used⟩, rest.drop used)
    | (none, _) => (⟨none, [c]⟩, rest)

/-- The characters of a text; `fuel` is at least its length. -/
def charactersIn (l : Locale) : (fuel : Nat) → Text → List Character
  | 0, _ => []
  | _ + 1, [] => []
  | fuel + 1, c :: rest =>
    let (x, rest) := l.first c rest
    x :: charactersIn l fuel rest

/-- The characters of a text. -/
def characters (l : Locale) (t : Text) : List Character := l.charactersIn t.length t

end Locale

end TemplateMap.Program
