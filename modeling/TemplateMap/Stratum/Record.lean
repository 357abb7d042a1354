import TemplateMap.Segment

/-! Line records: `start[#file][,count]:generated[,stride]`, the written form of a segment. -/

namespace TemplateMap.Stratum

/-- The class of the characters of a file id. -/
def isIdChar (c : Char) : Bool := c.isAlphanum

/-- Whether `t` is a file id: ASCII letters and digits, at least one. -/
def isFileId (t : Text) : Bool := !t.isEmpty && t.all isIdChar

/-- A number of a record: ASCII digits, at most `lastLine`. -/
def number? (t : Text) : Option Nat := t.number? lastLine

/-- A number with, after the first comma, a second one; `1` when there is no comma. -/
def numberPair? (t : Text) : Option (Nat × Nat) :=
  match t.cut? (· = ',') with
  | some (first, second) => do return (← number? first, ← number? second)
  | none => do return (← number? t, 1)

/-- A number with, after the first number sign, a file id; no id when there is no number sign. -/
def numberWithFile? (t : Text) : Option (Nat × Option Text) :=
  match t.cut? (· = '#') with
  | some (number, id) => if isFileId id then do return (← number? number, some id) else none
  | none => do return (← number? t, none)

/-- The part of a record before its colon: the start, the file id and the count. -/
def source? (t : Text) : Option (Nat × Option Text × Nat) :=
  match t.cut? (· = ',') with
  | some (head, count) => do
    let count ← number? count
    let (start, file) ← numberWithFile? head
    return (start, file, count)
  | none => do
    let (start, file) ← numberWithFile? t
    return (start, file, 1)

/-- The segment that a line record writes, with the file id that the record gives itself.  A count
of zero is no record, and neither is a stride of zero over several lines. -/
def record? (line : Text) : Option Segment := do
  let (source, target) ← line.cut? (· = ':')
  let (start, file, count) ← source? source
  let (generated, stride) ← numberPair? target
  if count = 0 ∨ (stride = 0 ∧ 1 < count) then none
  else return Segment.of start count generated stride file

end TemplateMap.Stratum
