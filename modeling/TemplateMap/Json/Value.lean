import TemplateMap.Text.Basic

/-! JSON values and their texts, on one line or indented. -/

namespace TemplateMap.Json

/-- A JSON value; a number is the text that writes it, and the fields of an object keep their
order. -/
inductive Value
  | null
  | bool (value : Bool)
  | number (text : Text)
  | string (text : Text)
  | array (items : List Value)
  | object (fields : List (Text × Value))

namespace Value

/-- The value of an integer. -/
def ofInt (n : Int) : Value := .number (Text.ofInt n)

/-- The value of a natural number. -/
def ofNat (n : Nat) : Value := ofInt n

/-- The value of a string. -/
def ofString (s : String) : Value := .string s.toList

/-- The value of something that may be missing: null when it is. -/
def ofOption {α : Type} (f : α → Value) : Option α → Value
  | none => .null
  | some a => f a

end Value

/-- Four hexadecimal digits. -/
def fourHexDigits (n : Nat) : Text :=
  let digits := Nat.toDigits 16 n
  List.replicate (4 - digits.length) '0' ++ digits

/-- How one character is written in a string. -/
def escapeChar (c : Char) : Text :=
  if c = '"' then ['\\', '"']
  else if c = '\\' then ['\\', '\\']
  else if c = '\x08' then ['\\', 'b']
  else if c = '\t' then ['\\', 't']
  else if c = '\n' then ['\\', 'n']
  else if c = '\x0c' then ['\\', 'f']
  else if c = '\r' then ['\\', 'r']
  else if c.toNat < 32 then ['\\', 'u'] ++ fourHexDigits c.toNat
  else [c]

/-- The text of a string. -/
def writeString (t : Text) : String := "\"" ++ Text.str (t.flatMap escapeChar) ++ "\""

mutual

/-- A text with a value after it on one line, without white space. -/
def Value.compactAfter (before : String) : Value → String
  | .null => before ++ "null"
  | .bool true => before ++ "true"
  | .bool false => before ++ "false"
  | .number text => before ++ text.str
  | .string text => before ++ writeString text
  | .array items => compactItems (before ++ "[") items ++ "]"
  | .object fields => compactFields (before ++ "\x7b") fields ++ "\x7d"

/-- A text with the items of an array after it on one line, with commas between them. -/
def compactItems (before : String) : List Value → String
  | [] => before
  | [v] => v.compactAfter before
  | v :: rest => compactItems (v.compactAfter before ++ ",") rest

/-- A text with the fields of an object after it on one line, with commas between them. -/
def compactFields (before : String) : List (Text × Value) → String
  | [] => before
  | [(k, v)] => v.compactAfter (before ++ writeString k ++ ":")
  | (k, v) :: rest => compactFields (v.compactAfter (before ++ writeString k ++ ":") ++ ",") rest

end

/-- The value on one line, without white space. -/
def Value.compact (v : Value) : String := v.compactAfter ""

/-- A line break and two blanks for each level of depth. -/
def lineBreak (depth : Nat) : String := "\n" ++ Text.str (List.replicate (2 * depth) ' ')

mutual

/-- A text with a value after it that has each item and field on a line of its own, two blanks
deeper than the value; empty arrays and objects stay on one line. -/
def Value.indentedAfter (depth : Nat) (before : String) : Value → String
  | .null => before ++ "null"
  | .bool true => before ++ "true"
  | .bool false => before ++ "false"
  | .number text => before ++ text.str
  | .string text => before ++ writeString text
  | .array [] => before ++ "[]"
  | .array (v :: items) =>
    indentedItems (depth + 1) (before ++ "[") (v :: items) ++ lineBreak depth ++ "]"
  | .object [] => before ++ "\x7b\x7d"
  | .object (f :: fields) =>
    indentedFields (depth + 1) (before ++ "\x7b") (f :: fields) ++ lineBreak depth ++ "\x7d"

/-- A text with the items of an array after it, each on a line of its own. -/
def indentedItems (depth : Nat) (before : String) : List Value → String
  | [] => before
  | [v] => v.indentedAfter depth (before ++ lineBreak depth)
  | v :: rest =>
    indentedItems depth (v.indentedAfter depth (before ++ lineBreak depth) ++ ",") rest

/-- A text with the fields of an object after it, each on a line of its own. -/
def indentedFields (depth : Nat) (before : String) : List (Text × Value) → String
  | [] => before
  | [(k, v)] => v.indentedAfter depth (before ++ lineBreak depth ++ writeString k ++ ": ")
  | (k, v) :: rest =>
    let field := v.indentedAfter depth (before ++ lineBreak depth ++ writeString k ++ ": ")
    indentedFields depth (field ++ ",") rest

end

/-- The value on lines of its own, from a depth of nesting on. -/
def Value.indented (depth : Nat) (v : Value) : String := v.indentedAfter depth ""

end TemplateMap.Json
