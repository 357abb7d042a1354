import TemplateMap.Number.Shortest
import TemplateMap.Text.Quoted
import TemplateMap.Text.Utf8

/-! Faults of a JSON text: what is wrong, and where.  A fault is found at a place of the text that
the number of bytes after it gives; its line and column are counted from that. -/

namespace TemplateMap.Json

/-- A value that stands where another kind of value belongs. -/
inductive Found
  | null
  | bool (value : Bool)
  | integer (value : Int)
  | float (value : Binary64)
  | string (text : Text)
  | array
  | object
  deriving DecidableEq

/-- What is wrong with a text. -/
inductive Cause
  | endInArray
  | endInObject
  | endInString
  | endInValue
  | colonExpected
  | arrayCommaExpected
  | objectCommaExpected
  | literalExpected
  | valueExpected
  | invalidEscape
  | invalidNumber
  | numberOutOfRange
  | controlCharacter
  | keyNotString
  | loneSurrogate
  | brokenSurrogatePair
  | trailingComma
  | trailingText
  | wrongType (found : Found) (expected : String)
  | outOfBounds (value : Int) (expected : String)
  | duplicateField (name : String)
  deriving DecidableEq

/-- The kinds of faults: the text ends too early, it is no JSON, or its values are not the wanted
ones. -/
inductive Category
  | incomplete
  | malformed
  | unsuitable
  deriving DecidableEq, Repr

/-- The kind of fault that a cause makes. -/
def Cause.category : Cause → Category
  | .endInArray | .endInObject | .endInString | .endInValue => .incomplete
  | .wrongType .. | .outOfBounds .. | .duplicateField .. => .unsuitable
  | _ => .malformed

/-- A value in words. -/
def Found.shown : Found → Text
  | .null => "null".toList
  | .bool true => "boolean \x60true\x60".toList
  | .bool false => "boolean \x60false\x60".toList
  | .integer n => "integer \x60".toList ++ Text.ofInt n ++ ['\x60']
  | .float x => "floating point \x60".toList ++ x.pointed ++ ['\x60']
  | .string t => "string ".toList ++ t.quoted
  | .array => "sequence".toList
  | .object => "map".toList

/-- A cause in words. -/
def Cause.message : Cause → Text
  | .endInArray => "EOF while parsing a list".toList
  | .endInObject => "EOF while parsing an object".toList
  | .endInString => "EOF while parsing a string".toList
  | .endInValue => "EOF while parsing a value".toList
  | .colonExpected => "expected \x60:\x60".toList
  | .arrayCommaExpected => "expected \x60,\x60 or \x60]\x60".toList
  | .objectCommaExpected => "expected \x60,\x60 or \x60\x7d\x60".toList
  | .literalExpected => "expected ident".toList
  | .valueExpected => "expected value".toList
  | .invalidEscape => "invalid escape".toList
  | .invalidNumber => "invalid number".toList
  | .numberOutOfRange => "number out of range".toList
  | .controlCharacter =>
    "control character (\\u0000-\\u001F) found while parsing a string".toList
  | .keyNotString => "key must be a string".toList
  | .loneSurrogate => "lone leading surrogate in hex escape".toList
  | .brokenSurrogatePair => "unexpected end of hex escape".toList
  | .trailingComma => "trailing comma".toList
  | .trailingText => "trailing characters".toList
  | .wrongType found expected =>
    "invalid type: ".toList ++ found.shown ++ ", expected ".toList ++ expected.toList
  | .outOfBounds n expected =>
    "invalid value: integer \x60".toList ++ Text.ofInt n ++ "\x60, expected ".toList ++
      expected.toList
  | .duplicateField name => "duplicate field \x60".toList ++ name.toList ++ ['\x60']

/-- What is wrong, and how many bytes of the text come after the place where it shows. -/
structure Fault where
  cause : Cause
  remaining : Nat
  deriving DecidableEq

namespace Fault

/-- The fault that shows where `rest` is left of the text. -/
def leaving (cause : Cause) (rest : Bytes) : Fault := ⟨cause, rest.length⟩

/-- The line and the column of a fault in a text: the line feeds up to it, and the bytes after the
last of these. -/
def position (f : Fault) (text : Bytes) : Nat × Nat :=
  let passed := text.take (text.length - f.remaining)
  (passed.count 10 + 1, (passed.reverse.takeWhile (· != 10)).length)

/-- The cause in words, and the place in the text. -/
def message (f : Fault) (text : Bytes) : Text :=
  let (line, column) := f.position text
  f.cause.message ++ " at line ".toList ++ Text.ofNat line ++ " column ".toList ++
    Text.ofNat column

end Fault

end TemplateMap.Json
