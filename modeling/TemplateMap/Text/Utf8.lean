import TemplateMap.Text.Basic

/-! Bytes of texts: UTF-8 in both directions, with a strict and a lossy reader, and the reading that
makes one character of each byte. -/

namespace TemplateMap

/-- A sequence of bytes. -/
abbrev Bytes := List UInt8

namespace Utf8

/-- The bytes of one character. -/
def encodeChar (c : Char) : Bytes :=
  let n := c.toNat
  if n < 0x80 then [UInt8.ofNat n]
  else if n < 0x800 then [UInt8.ofNat (0xc0 + n / 64), UInt8.ofNat (0x80 + n % 64)]
  else if n < 0x10000 then
    [UInt8.ofNat (0xe0 + n / 4096), UInt8.ofNat (0x80 + n / 64 % 64), UInt8.ofNat (0x80 + n % 64)]
  else
    [UInt8.ofNat (0xf0 + n / 262144), UInt8.ofNat (0x80 + n / 4096 % 64),
      UInt8.ofNat (0x80 + n / 64 % 64), UInt8.ofNat (0x80 + n % 64)]

/-- The bytes of a text. -/
def encode (t : Text) : Bytes := t.flatMap encodeChar

/-- The character that stands for bytes that write none. -/
def replacement : Char := '\ufffd'

/-- The class of a lead byte: how many bytes follow it, and between which bounds the first of them
lies.  The bounds leave out long forms, surrogates and code points past the last. -/
def lead? (b : Nat) : Option (Nat × Nat × Nat) :=
  if b < 0x80 then some (0, 0, 0)
  else if 0xc2 ≤ b && b ≤ 0xdf then some (1, 0x80, 0xbf)
  else if b = 0xe0 then some (2, 0xa0, 0xbf)
  else if b = 0xed then some (2, 0x80, 0x9f)
  else if 0xe1 ≤ b && b ≤ 0xef then some (2, 0x80, 0xbf)
  else if b = 0xf0 then some (3, 0x90, 0xbf)
  else if 0xf1 ≤ b && b ≤ 0xf3 then some (3, 0x80, 0xbf)
  else if b = 0xf4 then some (3, 0x80, 0x8f)
  else none

/-- The payload of a lead byte that `count` bytes follow. -/
def leadPayload (b count : Nat) : Nat :=
  match count with
  | 0 => b
  | 1 => b - 0xc0
  | 2 => b - 0xe0
  | _ => b - 0xf0

/-- Reads `count` continuation bytes, the first between `low` and `high`: the code point if all are
there, and else nothing; either way the bytes that were not used. -/
def continuation (acc : Nat) : (count low high : Nat) → Bytes → Option Nat × Bytes
  | 0, _, _, bytes => (some acc, bytes)
  | _ + 1, _, _, [] => (none, [])
  | count + 1, low, high, b :: rest =>
    if low ≤ b.toNat && b.toNat ≤ high then
      continuation (acc * 64 + (b.toNat - 0x80)) count 0x80 0xbf rest
    else (none, b :: rest)

theorem continuation_length (acc count low high : Nat) (bytes : Bytes) :
    (continuation acc count low high bytes).2.length ≤ bytes.length := by
  induction bytes generalizing acc count low high with
  | nil => cases count <;> simp [continuation]
  | cons b rest ih =>
    cases count with
    | zero => simp [continuation]
    | succ count =>
      simp only [continuation]
      split
      · exact Nat.le_succ_of_le (ih ..)
      · exact Nat.le_refl _

/-- The first character of non-empty bytes, or nothing where the bytes at the start begin no
character; either way the bytes after those it used, which are at least one. -/
def next (b : UInt8) (rest : Bytes) : Option Char × Bytes :=
  match lead? b.toNat with
  | none => (none, rest)
  | some (count, low, high) =>
    let (code, rest) := continuation (leadPayload b.toNat count) count low high rest
    (code.map Char.ofNat, rest)

theorem next_length (b : UInt8) (rest : Bytes) : (next b rest).2.length ≤ rest.length := by
  unfold next
  split
  · exact Nat.le_refl _
  · exact continuation_length ..

/-- The text that bytes write, a replacement character standing for each longest run of bytes that
begins a character and does not complete it. -/
def decodeLossy : Bytes → Text
  | [] => []
  | b :: rest =>
    have := next_length b rest
    (next b rest).1.getD replacement :: decodeLossy (next b rest).2
termination_by bytes => bytes.length

/-- The text that bytes write, if every byte is part of a character. -/
def decode? : Bytes → Option Text
  | [] => some []
  | b :: rest =>
    have := next_length b rest
    match (next b rest).1 with
    | none => none
    | some c => (decode? (next b rest).2).map (c :: ·)
termination_by bytes => bytes.length

end Utf8

namespace Latin1

/-- One character per byte, with the byte's value as its code point. -/
def decode (bytes : Bytes) : Text := bytes.map fun b => Char.ofNat b.toNat

/-- One byte per character: the code point, whose excess over 255 is dropped. -/
def encode (t : Text) : Bytes := t.map fun c => UInt8.ofNat c.toNat

/-- A text with one character for each of its bytes. -/
def ofText (t : Text) : Text := decode (Utf8.encode t)

/-- The text that characters write that stand for one byte each. -/
def toText (t : Text) : Text := Utf8.decodeLossy (encode t)

end Latin1

end TemplateMap
