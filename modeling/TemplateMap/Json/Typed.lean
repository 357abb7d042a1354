import TemplateMap.Json.Quantity

/-! Typed readers: each reads one kind of value after white space and says what it found where
another kind stands. -/

namespace TemplateMap.Json

/-- The rest of a text after space and one closing byte, as far as they are there. -/
def pastClosing (close : Char) (bytes : Bytes) : Bytes :=
  match skipSpace bytes with
  | [] => []
  | b :: rest => if b = byte close then rest else b :: rest

/-- The fault of a value of the wrong kind that begins with `b`: a fault in the value itself comes
before its kind. -/
def mismatch (expected : String) (b : UInt8) (rest : Bytes) : Fault :=
  let wrong (found : Found) (rest : Bytes) : Fault := .leaving (.wrongType found expected) rest
  let word (w : String) (found : Found) : Fault :=
    match literal (asciiBytes w) rest with
    | .error f => f
    | .ok rest => wrong found rest
  if b = byte 'n' then word "ull" .null
  else if b = byte 't' then word "rue" (.bool true)
  else if b = byte 'f' then word "alse" (.bool false)
  else if b = byte '-' || isDigitByte b then
    match quantity (b :: rest) with
    | .error f => f
    | .ok ⟨.integer n, rest, _⟩ => wrong (.integer n) rest
    | .ok ⟨.float x, rest, _⟩ => wrong (.float x) rest
  else if b = byte '"' then
    match stringTail rest with
    | .error f => f
    | .ok ⟨t, rest, _⟩ => wrong (.string (Utf8.decodeLossy t)) rest
  else if b = byte '[' then wrong .array (b :: rest)
  else if b = byte '\x7b' then wrong .object (b :: rest)
  else .leaving .valueExpected rest

/-- Reads a value of the kind that `read?` knows by its first byte. -/
def expecting {α : Type} (expected : String)
    (read? : (b : UInt8) → (rest : Bytes) → Option (Except Fault (Read α (b :: rest)))) :
    Reader α := fun bytes =>
  match nextByte? bytes with
  | none => .error (.leaving .endInValue [])
  | some ⟨b, rest, h⟩ =>
    match read? b rest with
    | some read => do return (← read).within h
    | none => .error (mismatch expected b rest)

/-- Reads a string. -/
def text : Reader Text :=
  expecting "a string" fun b rest =>
    if b = byte '"' then
      some do return ((← stringTail rest).map Utf8.decodeLossy).afterByte
    else none

/-- Reads a number that `accept` takes; what it does not take it must explain. -/
def number {α : Type} (expected : String) (accept : Quantity → Except Cause α) : Reader α :=
  expecting expected fun b rest =>
    if b = byte '-' || isDigitByte b then
      some do
        let q ← quantity (b :: rest)
        match accept q.value with
        | .ok a => return q.map fun _ => a
        | .error cause => .error (.leaving cause q.rest)
    else none

/-- Reads a natural number up to `bound`, the greatest one of the type `name`. -/
def natural (bound : Nat) (name : String) : Reader Nat :=
  number name fun
    | .integer n =>
      if 0 ≤ n ∧ n ≤ bound then .ok n.toNat else .error (.outOfBounds n name)
    | .float x => .error (.wrongType (.float x) name)

/-- Reads a number as a binary64 one. -/
def fraction : Reader Binary64 :=
  number "f64" fun
    | .integer n => .ok (.finite (n < 0) (Binary64.nearest n.natAbs))
    | .float x => .ok x

/-- Whether an array has another item, which is not its first unless `first` is set: the bytes that
the item begins with, or the bytes at the closing bracket. -/
def nextItem (first : Bool) (bytes : Bytes) :
    Except Fault (Bool × { r : Bytes // r.length ≤ bytes.length }) :=
  match nextByte? bytes with
  | none => .error (.leaving .endInArray [])
  | some ⟨b, rest, h⟩ =>
    if b = byte ']' then .ok (false, ⟨b :: rest, h⟩)
    else if first then .ok (true, ⟨b :: rest, h⟩)
    else if b = byte ',' then
      match nextByte? rest with
      | none => .error (.leaving .endInValue [])
      | some ⟨c, after, h'⟩ =>
        if c = byte ']' then .error (.leaving .trailingComma after)
        else .ok (true, ⟨c :: after, by simp only [List.length_cons]; omega⟩)
    else .error (.leaving .arrayCommaExpected rest)

/-- The rest of a text after the end of an array. -/
def arrayEnd (bytes : Bytes) : Except Fault (Read Unit bytes) :=
  match nextByte? bytes with
  | none => .error (.leaving .endInArray [])
  | some ⟨b, rest, h⟩ =>
    if b = byte ']' then .ok ⟨(), rest, h⟩
    else if b = byte ',' then
      match nextByte? rest with
      | none => .error (.leaving .trailingText [])
      | some ⟨c, after, _⟩ =>
        .error (.leaving (if c = byte ']' then .trailingComma else .trailingText) after)
    else .error (.leaving .trailingText rest)

/-- The items of an array after its opening bracket, and its end. -/
def items {α : Type} (item : Reader α) (first : Bool) : Reader (List α) := fun bytes => do
  match ← nextItem first bytes with
  | (false, ⟨rest, h⟩) => return ((← arrayEnd rest).map fun _ => []).within h
  | (true, ⟨rest, h⟩) =>
    let a ← item rest
    have := a.shorter
    let more ← items item false a.rest
    return (more.map (a.value :: ·)).within (by omega)
termination_by bytes => bytes.length

/-- Reads an array. -/
def array {α : Type} (item : Reader α) : Reader (List α) :=
  expecting "a sequence" fun b rest =>
    if b = byte '[' then some do return (← items item true rest).afterByte else none

/-- Reads one value and nothing but white space after it. -/
def whole {α : Type} (reader : Reader α) (bytes : Bytes) : Except Fault α := do
  let r ← reader bytes
  match nextByte? r.rest with
  | none => return r.value
  | some next => .error (.leaving .trailingText next.rest)

end TemplateMap.Json
