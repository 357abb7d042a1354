import TemplateMap.Number.Binary64
import TemplateMap.Segment

/-! Tables of segments and the two queries on them: which generated line a template line went to,
and which template line a generated line came from.  A segment says how far it reaches among the
template lines but not among the generated ones, so the two queries differ: the reverse one takes
the generated reach of a segment to end where the next one starts. -/

namespace TemplateMap

/-- How an answer was found: read from a segment, from segments on both sides, or from one side. -/
inductive Confidence
  | exact
  | interpolated
  | extrapolated
  deriving DecidableEq, Repr

/-- A line found in a table. -/
structure Hit where
  line : Nat
  confidence : Confidence
  deriving DecidableEq, Repr

/-- Segments in the order in which they were found. -/
abbrev Table := List Segment

namespace Table

/-- The segment with the greatest template start among those that start at or before `line`: the
earliest of them. -/
def before? (t : Table) (line : Int) : Option Segment :=
  t.foldl (fun best s =>
    if s.template ≤ line ∧ best.all fun b => b.template < s.template then some s else best) none

/-- The segment with the smallest template start among those that start at or after `line`: the
earliest of them. -/
def after? (t : Table) (line : Int) : Option Segment :=
  t.foldl (fun best s =>
    if line ≤ s.template ∧ best.all fun b => s.template < b.template then some s else best) none

/-- The generated line at the share of the way from the start of `p` to the start of `n` that `line`
has come.  The quotient and the product are binary64 ones; the differences of line numbers are small
enough to be exact. -/
def between (p n : Segment) (line : Int) : Int :=
  let share := Binary64.nearest (((line - p.template : Int) : Rat) /
    ((n.template - p.template : Int) : Rat))
  let offset := Binary64.nearest (share * ((n.generated - p.generated : Int) : Rat))
  p.generated + roundHalfAway offset

/-- The generated line of a template line.  The earliest segment that covers the line answers
exactly; between two segment starts the answer is interpolated; past the last or before the first
start it is at the same distance from that start.  Only an empty table has no answer. -/
def forward? (t : Table) (line : Int) : Option Hit :=
  match t.findSome? (·.generatedAt? line) with
  | some g => some ⟨clampLine g, .exact⟩
  | none =>
    match t.before? line, t.after? line with
    | some p, some n =>
      if p.template ≠ n.template then some ⟨clampLine (between p n line), .interpolated⟩
      else some ⟨clampLine (p.generated + (line - p.template)), .extrapolated⟩
    | some p, none => some ⟨clampLine (p.generated + (line - p.template)), .extrapolated⟩
    | none, some n => some ⟨clampLine (n.generated - (n.template - line)), .extrapolated⟩
    | none, none => none

/-- The segments by their generated start; equal starts keep their order. -/
def byGenerated (t : Table) : Table := t.mergeSort fun a b => a.generated ≤ b.generated

/-- The template line as far from the start of `s` as `line` is from its generated start. -/
def offsetFrom (s : Segment) (line : Int) : Nat := clampLine (s.template + (line - s.generated))

/-- The segment after which `line` falls in an ascending run that begins with `current`: the first
one whose successor starts past the line, or the last one. -/
def holding (line : Int) (current : Segment) : List Segment → Segment
  | [] => current
  | next :: rest =>
    if current.generated ≤ line ∧ line < next.generated then current else holding line next rest

/-- The template line of a generated line.  A segment that starts at the line answers exactly;
before the first start the answer is extrapolated from it; elsewhere it is at the distance of the
line from the start before it.  Only an empty table has no answer. -/
def reverse? (t : Table) (line : Int) : Option Hit :=
  match t.byGenerated with
  | [] => none
  | first :: rest =>
    match (first :: rest).find? fun s => (s.generated : Int) == line with
    | some s => some ⟨max 1 s.template, .exact⟩
    | none =>
      if line < first.generated then some ⟨offsetFrom first line, .extrapolated⟩
      else some ⟨offsetFrom (holding line first rest) line, .interpolated⟩

end Table

end TemplateMap
