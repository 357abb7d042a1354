import TemplateMap.Text.Basic

/-! Patterns: stars, question marks and brackets match texts; a backslash keeps the character after
it from its meaning. -/

namespace TemplateMap.Shell

/-- The value of a byte that is compared as a signed one. -/
def signedByte (c : Char) : Int := if c.toNat < 128 then c.toNat else (c.toNat : Int) - 256

/-- Whether an ASCII character prints and is neither a letter nor a digit nor a blank. -/
def isPunctuation (c : Char) : Bool := '!' ≤ c && c ≤ '~' && !c.isAlphanum

/-- The classes of characters that brackets can name. -/
def characterClasses : List (String × (Char → Bool)) :=
  [("alnum", Char.isAlphanum), ("cntrl", fun c => c < ' ' || c = '\x7f'), ("lower", Char.isLower),
    ("space", fun c => c = ' ' || ('\t' ≤ c && c ≤ '\r')), ("alpha", Char.isAlpha),
    ("digit", Char.isDigit), ("print", fun c => ' ' ≤ c && c ≤ '~'), ("upper", Char.isUpper),
    ("blank", fun c => c = ' ' || c = '\t'), ("graph", fun c => '!' ≤ c && c ≤ '~'),
    ("punct", isPunctuation),
    ("xdigit", fun c => c.isDigit || ('a' ≤ c && c ≤ 'f') || ('A' ≤ c && c ≤ 'F'))]

/-- The class at the start of a text that follows an opening bracket, and the rest. -/
def characterClass? (t : Text) : Option ((Char → Bool) × Text) :=
  characterClasses.findSome? fun (name, holds) =>
    let shown := (":" ++ name ++ ":]").toList
    if shown.isPrefixOf t then some (holds, t.drop shown.length) else none

/-- Whether a character is in a bracket from its item `c` on, and the pattern after the bracket;
none where the bracket is not closed.  `fuel` is more than the length of the bracket. -/
def inBracket (chr : Char) : (fuel : Nat) → (found : Bool) → (c : Char) → Text →
    Option (Bool × Text)
  | 0, _, _, _ => none
  | fuel + 1, found, c, rest =>
    let goOn (found : Bool) (rest : Text) : Option (Bool × Text) :=
      match rest with
      | [] => none
      | ']' :: rest => some (found, rest)
      | c :: rest => inBracket chr fuel found c rest
    let item (c : Char) (rest : Text) : Option (Bool × Text) :=
      match rest with
      | '-' :: last :: after =>
        if last = ']' then goOn (found || chr = c) rest
        else
          let (last, after) := match last, after with
            | '\\', e :: after => (e, after)
            | _, _ => (last, after)
          let isIn := signedByte c ≤ signedByte chr && signedByte chr ≤ signedByte last
          goOn (found || isIn) after
      | _ => goOn (found || chr = c) rest
    if c = '[' then
      match characterClass? rest with
      | some (holds, rest) => goOn (found || holds chr) rest
      | none => item c rest
    else if c = '\\' then
      match rest with
      | [] => none
      | e :: rest => item e rest
    else item c rest

/-- Whether a pattern matches a text; `fuel` is more than the sum of their lengths. -/
def matchesWith : (fuel : Nat) → (pattern text : Text) → Bool
  | 0, _, _ => false
  | _ + 1, [], t => t.isEmpty
  | fuel + 1, p :: pattern, t =>
    let exactly (c : Char) (pattern : Text) : Bool :=
      match t with
      | [] => false
      | d :: rest => c = d && matchesWith fuel pattern rest
    match p with
    | '?' =>
      match t with
      | [] => false
      | _ :: rest => matchesWith fuel pattern rest
    | '*' =>
      let pattern := pattern.dropWhile (· = '*')
      matchesWith fuel pattern t ||
        (match t with
        | [] => false
        | _ :: rest => matchesWith fuel (p :: pattern) rest)
    | '\\' =>
      match pattern with
      | [] => exactly '\\' []
      | e :: pattern => exactly e pattern
    | '[' =>
      match t with
      | [] => false
      | chr :: rest =>
        let (inverted, items) := match pattern with
          | '!' :: items => (true, items)
          | items => (false, items)
        let read := match items with
          | [] => none
          | c :: items => inBracket chr (items.length + 1) false c items
        match read with
        | none => exactly '[' pattern
        | some (found, pattern) => found != inverted && matchesWith fuel pattern rest
    | c => exactly c pattern

/-- Whether a pattern matches a text. -/
def matchesPattern (pattern text : Text) : Bool :=
  matchesWith (pattern.length + text.length + 1) pattern text

end TemplateMap.Shell
