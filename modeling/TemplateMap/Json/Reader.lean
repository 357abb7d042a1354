import TemplateMap.Json.Fault

/-! Readers of JSON: each takes bytes from the front of a text and gives a value with the bytes
after it, or the first fault.  What a reader leaves is shorter than what it was given, so reading on
ends. -/

namespace TemplateMap.Json

/-- What a reader of `bytes` gives: a value and the bytes after it. -/
structure Read (α : Type) (bytes : Bytes) where
  value : α
  rest : Bytes
  shorter : rest.length < bytes.length

namespace Read

variable {α β : Type} {inner outer : Bytes}

/-- The same from a longer text that ends in the one that was read. -/
def within (r : Read α inner) (h : inner.length ≤ outer.length) : Read α outer :=
  ⟨r.value, r.rest, Nat.lt_of_lt_of_le r.shorter h⟩

/-- The same with another value. -/
def map (f : α → β) (r : Read α inner) : Read β inner := ⟨f r.value, r.rest, r.shorter⟩

/-- The same from a text with one byte more in front. -/
def afterByte {b : UInt8} (r : Read α inner) : Read α (b :: inner) := r.within (Nat.le_succ _)

/-- What is read after something else, as read from where that was. -/
def followedBy (first : Read β outer) (r : Read α first.rest) : Read α outer :=
  r.within (Nat.le_of_lt first.shorter)

end Read

/-- A reader of values. -/
abbrev Reader (α : Type) := (bytes : Bytes) → Except Fault (Read α bytes)

/-- The byte of an ASCII character. -/
def byte (c : Char) : UInt8 := UInt8.ofNat c.toNat

/-- The bytes of an ASCII text. -/
def asciiBytes (s : String) : Bytes := s.toList.map byte

/-- The bytes that may stand between the parts of a text. -/
def isSpace (b : UInt8) : Bool := b == 32 || b == 9 || b == 10 || b == 13

/-- The bytes from the first one on that is no space. -/
def skipSpace (bytes : Bytes) : Bytes := bytes.dropWhile isSpace

theorem skipSpace_length (bytes : Bytes) : (skipSpace bytes).length ≤ bytes.length :=
  (List.dropWhile_sublist isSpace).length_le

/-- Whether a byte is a decimal digit. -/
def isDigitByte (b : UInt8) : Bool := 48 ≤ b && b ≤ 57

/-- The value of a decimal digit. -/
def digitOf (b : UInt8) : Nat := b.toNat - 48

/-- The bytes after the ones given. -/
def literal (word : Bytes) (bytes : Bytes) : Except Fault Bytes :=
  match word, bytes with
  | [], rest => .ok rest
  | _ :: _, [] => .error (.leaving .endInValue [])
  | w :: word, b :: rest =>
    if b = w then literal word rest else .error (.leaving .literalExpected rest)

theorem literal_length {word bytes rest : Bytes} (h : literal word bytes = .ok rest) :
    rest.length ≤ bytes.length := by
  induction word generalizing bytes with
  | nil =>
    simp only [literal, Except.ok.injEq] at h
    exact Nat.le_of_eq (congrArg List.length h.symm)
  | cons w word ih =>
    cases bytes with
    | nil => simp [literal] at h
    | cons b bytes =>
      simp only [literal] at h
      split at h
      · exact Nat.le_succ_of_le (ih h)
      · exact absurd h (by simp)

/-! Strings -/

/-- The value of a hexadecimal digit. -/
def hexValue? (b : UInt8) : Option Nat :=
  if isDigitByte b then some (b.toNat - 48)
  else if 97 ≤ b && b ≤ 102 then some (b.toNat - 87)
  else if 65 ≤ b && b ≤ 70 then some (b.toNat - 55)
  else none

/-- The number that four hexadecimal digits write. -/
def hexEscape : Reader Nat
  | a :: b :: c :: d :: rest =>
    match hexValue? a, hexValue? b, hexValue? c, hexValue? d with
    | some w, some x, some y, some z =>
      .ok ⟨((w * 16 + x) * 16 + y) * 16 + z, rest, by simp only [List.length_cons]; omega⟩
    | _, _, _, _ => .error (.leaving .invalidEscape rest)
  | _ => .error (.leaving .endInString [])

/-- Whether a number is the first half of a surrogate pair. -/
def isHighSurrogate (n : Nat) : Bool := 0xd800 ≤ n && n ≤ 0xdbff

/-- Whether a number is the second half of a surrogate pair. -/
def isLowSurrogate (n : Nat) : Bool := 0xdc00 ≤ n && n ≤ 0xdfff

/-- The second half of a surrogate pair, which a new escape must give. -/
def secondHalf : Reader Nat
  | [] => .error (.leaving .endInString [])
  | b :: rest =>
    if b ≠ byte '\\' then .error (.leaving .brokenSurrogatePair rest)
    else
      match rest with
      | [] => .error (.leaving .endInString [])
      | b :: rest =>
        if b ≠ byte 'u' then .error (.leaving .brokenSurrogatePair rest)
        else do
          let low ← hexEscape rest
          if isLowSurrogate low.value then
            return low.within (by simp only [List.length_cons]; omega)
          else .error (.leaving .loneSurrogate low.rest)

/-- The character of an escape by number, two of them where the first is half of a pair. -/
def unicodeEscape : Reader Char := fun bytes => do
  let high ← hexEscape bytes
  if isLowSurrogate high.value then .error (.leaving .loneSurrogate high.rest)
  else if isHighSurrogate high.value then
    let low ← secondHalf high.rest
    let code := 0x10000 + (high.value - 0xd800) * 1024 + (low.value - 0xdc00)
    return high.followedBy (low.map fun _ => Char.ofNat code)
  else return high.map Char.ofNat

/-- The byte that a one-letter escape stands for. -/
def letterEscape? (b : UInt8) : Option UInt8 :=
  if b = byte '"' || b = byte '\\' || b = byte '/' then some b
  else if b = byte 'b' then some 8
  else if b = byte 'f' then some 12
  else if b = byte 'n' then some 10
  else if b = byte 'r' then some 13
  else if b = byte 't' then some 9
  else none

/-- The bytes that an escape stands for, after its backslash. -/
def escape : Reader Bytes
  | [] => .error (.leaving .endInString [])
  | b :: rest =>
    match letterEscape? b with
    | some c => .ok ⟨[c], rest, Nat.lt_succ_self _⟩
    | none =>
      if b = byte 'u' then do
        let c ← unicodeEscape rest
        return (c.map Utf8.encodeChar).afterByte
      else .error (.leaving .invalidEscape rest)

/-- The bytes of a string after its opening quote. -/
def stringTail : Reader Bytes
  | [] => .error (.leaving .endInString [])
  | b :: rest =>
    if b = byte '"' then .ok ⟨[], rest, Nat.lt_succ_self _⟩
    else if b = byte '\\' then do
      let e ← escape rest
      have := e.shorter
      let tail ← stringTail e.rest
      return (tail.map (e.value ++ ·)).within (by simp only [List.length_cons]; omega)
    else if b < 32 then .error (.leaving .controlCharacter rest)
    else do
      let tail ← stringTail rest
      return (tail.map (b :: ·)).afterByte
termination_by bytes => bytes.length

/-- Passes over a string after its opening quote; numbers of escapes need not be characters. -/
def skipString : Reader Unit
  | [] => .error (.leaving .endInString [])
  | b :: rest =>
    if b = byte '"' then .ok ⟨(), rest, Nat.lt_succ_self _⟩
    else if b = byte '\\' then
      match rest with
      | [] => .error (.leaving .endInString [])
      | e :: rest =>
        if (letterEscape? e).isSome then do
          return (← skipString rest).within (by simp only [List.length_cons]; omega)
        else if e = byte 'u' then do
          let hex ← hexEscape rest
          have := hex.shorter
          return (← skipString hex.rest).within (by simp only [List.length_cons]; omega)
        else .error (.leaving .invalidEscape rest)
    else if b < 32 then .error (.leaving .controlCharacter (b :: rest))
    else do return (← skipString rest).afterByte
termination_by bytes => bytes.length

/-! Numbers -/

/-- A number as it is written. -/
structure Numeral where
  negative : Bool
  whole : List Nat
  fraction : Option (List Nat)
  exponent : Option (Bool × List Nat)

/-- The digits at the start of the bytes, and the bytes after them. -/
def digitRun (bytes : Bytes) : List Nat × Bytes :=
  ((bytes.takeWhile isDigitByte).map digitOf, bytes.dropWhile isDigitByte)

theorem digitRun_length (bytes : Bytes) : (digitRun bytes).2.length ≤ bytes.length :=
  (List.dropWhile_sublist isDigitByte).length_le

/-- The digits from a first one on. -/
def digitsFrom (b : UInt8) (rest : Bytes) : Read (List Nat) (b :: rest) :=
  ⟨digitOf b :: (digitRun rest).1, (digitRun rest).2, Nat.lt_succ_of_le (digitRun_length rest)⟩

/-- The digits of a number before its point: a zero is alone.  `cut` is the cause where the text
ends first. -/
def wholePart (cut : Cause) : Reader (List Nat)
  | [] => .error (.leaving cut [])
  | b :: rest =>
    if b = byte '0' then
      if rest.head?.any isDigitByte then .error (.leaving .invalidNumber rest.tail)
      else .ok ⟨[0], rest, Nat.lt_succ_self _⟩
    else if isDigitByte b then
      .ok (digitsFrom b rest)
    else .error (.leaving .invalidNumber rest)

/-- The point of a number and the digits after it, of which there is at least one. -/
def fractionPart (cut : Cause) : Reader (List Nat)
  | [] => .error (.leaving cut [])
  | _ :: rest =>
    match digitRun rest, digitRun_length rest with
    | ([], []), _ => .error (.leaving cut [])
    | ([], _ :: rest), _ => .error (.leaving .invalidNumber rest)
    | (digits, rest), h => .ok ⟨digits, rest, Nat.lt_succ_of_le h⟩

/-- The digits of an exponent, of which there is at least one. -/
def exponentDigits (cut : Cause) : Reader (List Nat)
  | [] => .error (.leaving cut [])
  | b :: rest =>
    if isDigitByte b then
      .ok (digitsFrom b rest)
    else .error (.leaving .invalidNumber rest)

/-- The sign of an exponent, if it has one, and its digits. -/
def signedDigits (cut : Cause) : Reader (Bool × List Nat)
  | [] => .error (.leaving cut [])
  | b :: rest =>
    if b = byte '+' || b = byte '-' then do
      let digits ← exponentDigits cut rest
      return (digits.map fun ds => (b == byte '-', ds)).afterByte
    else do return (← exponentDigits cut (b :: rest)).map fun ds => (false, ds)

/-- The letter of an exponent, its sign and its digits. -/
def exponentPart (cut : Cause) : Reader (Bool × List Nat)
  | [] => .error (.leaving cut [])
  | _ :: rest => do return (← signedDigits cut rest).afterByte

/-- Reads a part that is there if the next byte is in the class `p`. -/
def optionalPart {α β : Type} {bytes : Bytes} (p : UInt8 → Bool) (part : Reader β)
    (join : α → Option β → α) (r : Read α bytes) : Except Fault (Read α bytes) :=
  if r.rest.head?.any p then do
    let found ← part r.rest
    return r.followedBy (found.map fun b => join r.value (some b))
  else .ok (r.map fun a => join a none)

/-- A number after its sign. -/
def unsigned (cut : Cause) : Reader Numeral := fun bytes => do
  let whole ← wholePart cut bytes
  let start := whole.map fun digits => (⟨false, digits, none, none⟩ : Numeral)
  let r ← optionalPart (· == byte '.') (fractionPart cut)
    (fun n f => { n with fraction := f }) start
  optionalPart (fun b => b == byte 'e' || b == byte 'E') (exponentPart cut)
    (fun n e => { n with exponent := e }) r

/-- A number.  `cut` is the cause where the text ends in the middle of it. -/
def numeral (cut : Cause) : Reader Numeral
  | [] => .error (.leaving cut [])
  | b :: rest =>
    if b = byte '-' then do
      let r ← unsigned cut rest
      return (r.map fun n => { n with negative := true }).afterByte
    else unsigned cut (b :: rest)

/-! Values that are passed over -/

/-- The first byte that is no space. -/
def nextByte? (bytes : Bytes) : Option (Read UInt8 bytes) :=
  match h : skipSpace bytes with
  | [] => none
  | b :: rest =>
    some ⟨b, rest, by
      have := skipSpace_length bytes
      rw [h] at this
      exact this⟩

/-- Passes over the rest of a word. -/
def skipWord (word : String) (bytes : Bytes) :
    Except Fault { r : Bytes // r.length ≤ bytes.length } :=
  match h : literal (asciiBytes word) bytes with
  | .error f => .error f
  | .ok rest => .ok ⟨rest, literal_length h⟩

/-- Passes over a word after its first letter, a number or a string; none where another value
begins. -/
def skipScalar? (b : UInt8) (rest : Bytes) : Option (Except Fault (Read Unit (b :: rest))) :=
  let word (w : String) := some do
    let after ← skipWord w rest
    return ⟨(), after.val, Nat.lt_succ_of_le after.property⟩
  if b = byte 'n' then word "ull"
  else if b = byte 't' then word "rue"
  else if b = byte 'f' then word "alse"
  else if b = byte '-' || isDigitByte b then
    some do return (← numeral .invalidNumber (b :: rest)).map fun _ => ()
  else if b = byte '"' then some do return (← skipString rest).afterByte
  else none

mutual

/-- Passes over a value. -/
def skipValue (bytes : Bytes) : Except Fault (Read Unit bytes) :=
  match nextByte? bytes with
  | none => .error (.leaving .endInValue [])
  | some ⟨b, rest, h⟩ =>
    match skipScalar? b rest with
    | some read => do return (← read).within h
    | none =>
      if b = byte '[' then
        match nextByte? rest with
        | none => .error (.leaving .endInArray [])
        | some ⟨c, after, h'⟩ =>
          if c = byte ']' then .ok ⟨(), after, Nat.lt_trans h' h⟩
          else do
            let item ← skipValue (c :: after)
            have := item.shorter
            return (← skipItems item.rest).within (by simp only [List.length_cons] at this; omega)
      else if b = byte '\x7b' then
        match nextByte? rest with
        | none => .error (.leaving .endInObject [])
        | some ⟨c, after, h'⟩ =>
          if c = byte '\x7d' then .ok ⟨(), after, Nat.lt_trans h' h⟩
          else do
            let field ← skipField (c :: after)
            have := field.shorter
            return (← skipFields field.rest).within
              (by simp only [List.length_cons] at this; omega)
      else .error (.leaving .valueExpected rest)
termination_by bytes.length
decreasing_by all_goals simp_all only [List.length_cons]; omega

/-- Passes over the items of an array after one of them, and its end. -/
def skipItems (bytes : Bytes) : Except Fault (Read Unit bytes) :=
  match nextByte? bytes with
  | none => .error (.leaving .endInArray [])
  | some ⟨b, rest, h⟩ =>
    if b = byte ']' then .ok ⟨(), rest, h⟩
    else if b = byte ',' then do
      let item ← skipValue rest
      have := item.shorter
      return (← skipItems item.rest).within (by omega)
    else .error (.leaving .arrayCommaExpected rest)
termination_by bytes.length

/-- Passes over a field of an object: a key, a colon and a value. -/
def skipField (bytes : Bytes) : Except Fault (Read Unit bytes) :=
  match nextByte? bytes with
  | none => .error (.leaving .endInObject [])
  | some ⟨b, rest, h⟩ =>
    if b = byte '"' then do
      let key ← skipString rest
      have := key.shorter
      match nextByte? key.rest with
      | none => .error (.leaving .endInObject [])
      | some ⟨c, after, h'⟩ =>
        if c = byte ':' then do return (← skipValue after).within (by omega)
        else .error (.leaving .colonExpected after)
    else .error (.leaving .keyNotString rest)
termination_by bytes.length

/-- Passes over the fields of an object after one of them, and its end. -/
def skipFields (bytes : Bytes) : Except Fault (Read Unit bytes) :=
  match nextByte? bytes with
  | none => .error (.leaving .endInObject [])
  | some ⟨b, rest, h⟩ =>
    if b = byte '\x7d' then .ok ⟨(), rest, h⟩
    else if b = byte ',' then do
      let field ← skipField rest
      have := field.shorter
      return (← skipFields field.rest).within (by omega)
    else .error (.leaving .objectCommaExpected rest)
termination_by bytes.length

end

end TemplateMap.Json
