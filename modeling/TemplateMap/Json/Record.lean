import TemplateMap.Json.Typed

/-! Records: values with named fields, read from an object, whose unknown keys are passed over, or
from an array of the fields in order.  A field that is not there keeps the value it had. -/

namespace TemplateMap.Json

/-- A field of records `σ`: its name, and the reader of its value, which sets it. -/
structure Field (σ : Type) where
  name : String
  read : Reader (σ → σ)

namespace Field

/-- The field whose values `reader` reads and `set` puts into a record. -/
def of {σ α : Type} (name : String) (reader : Reader α) (set : α → σ → σ) : Field σ where
  name := name
  read bytes := do return (← reader bytes).map set

end Field

/-- Whether an object has another field, which is not its first unless `first` is set: the bytes
after the opening quote of its key, or the bytes after the closing brace. -/
def nextKey (first : Bool) (bytes : Bytes) : Except Fault (Read Bool bytes) :=
  match nextByte? bytes with
  | none => .error (.leaving .endInObject [])
  | some ⟨b, rest, h⟩ =>
    if b = byte '\x7d' then .ok ⟨false, rest, h⟩
    else if first then
      if b = byte '"' then .ok ⟨true, rest, h⟩ else .error (.leaving .keyNotString rest)
    else if b = byte ',' then
      match nextByte? rest with
      | none => .error (.leaving .endInValue [])
      | some next =>
        if next.value = byte '"' then .ok ((next.map fun _ => true).within (Nat.le_of_lt h))
        else if next.value = byte '\x7d' then .error (.leaving .trailingComma next.rest)
        else .error (.leaving .keyNotString next.rest)
    else .error (.leaving .objectCommaExpected rest)

/-- The bytes after a colon. -/
def colon (bytes : Bytes) : Except Fault (Read Unit bytes) :=
  match nextByte? bytes with
  | none => .error (.leaving .endInObject [])
  | some ⟨b, rest, h⟩ =>
    if b = byte ':' then .ok ⟨(), rest, h⟩ else .error (.leaving .colonExpected rest)

variable {σ : Type}

/-- The record with the value after a key, which must not have come before; `seen` is the keys so
far, and what is given back has the key added. -/
def fieldValue (fields : List (Field σ)) (seen : List String) (record : σ) (key : String) :
    Reader (List String × σ) := fun bytes =>
  match fields.find? fun f => f.name == key with
  | none => do
    let after ← colon bytes
    return after.followedBy ((← skipValue after.rest).map fun _ => (seen, record))
  | some f =>
    if seen.contains key then
      .error (.leaving (.duplicateField key) (pastClosing '\x7d' bytes))
    else do
      let after ← colon bytes
      return after.followedBy ((← f.read after.rest).map fun set => (key :: seen, set record))

/-- The record with the fields of an object after its opening brace. -/
def fieldsOfObject (fields : List (Field σ)) (first : Bool) (seen : List String) (record : σ) :
    Reader σ := fun bytes => do
  let key ← nextKey first bytes
  have := key.shorter
  if key.value then
    let name ← stringTail key.rest
    have := name.shorter
    let value ← fieldValue fields seen record (Utf8.decodeLossy name.value).str name.rest
    have := value.shorter
    return (← fieldsOfObject fields false value.value.1 value.value.2 value.rest).within (by omega)
  else return key.map fun _ => record
termination_by bytes => bytes.length

/-- The record with the fields of an array after its opening bracket. -/
def fieldsOfArray (record : σ) : List (Field σ) → (first : Bool) → Reader σ
  | [], _, bytes => do return (← arrayEnd bytes).map fun _ => record
  | f :: rest, first, bytes => do
    match ← nextItem first bytes with
    | (false, ⟨close, h⟩) => return ((← arrayEnd close).map fun _ => record).within h
    | (true, ⟨item, h⟩) =>
      let set ← f.read item
      have := set.shorter
      return (← fieldsOfArray (set.value record) rest false set.rest).within (by omega)

/-- Reads a record of the type `name` whose fields have the values of `start` where none is given.
-/
def record (name : String) (fields : List (Field σ)) (start : σ) : Reader σ :=
  expecting name fun b rest =>
    if b = byte '\x7b' then
      some do return (← fieldsOfObject fields true [] start rest).afterByte
    else if b = byte '[' then
      some do return (← fieldsOfArray start fields true rest).afterByte
    else none

end TemplateMap.Json
