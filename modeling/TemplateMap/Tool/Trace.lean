import TemplateMap.Tool.Supervision

/-! Traces: what a program does over time, as far as its output and its end go, and what is to be
seen of it. -/

namespace TemplateMap.Tool

/-- A moment after the start, in nanoseconds. -/
abbrev Moment := Nat

/-- What a program does: what it writes and when, when the last holder of its output lets go of it,
and when and how it ends.  What never happens has no moment. -/
structure Trace where
  writes : List (Moment × Bytes)
  closed : Option Moment
  ended : Option (Moment × Status)

/-- The nanoseconds in a span of time. -/
def nanoseconds (ms : Milliseconds) : Moment := ms * 1000000

namespace Trace

/-- When more than `limit` bytes have been written, given how many were before. -/
def excess? (limit : Nat) (before : Nat) : List (Moment × Bytes) → Option Moment
  | [] => none
  | (moment, bytes) :: rest =>
    let now := before + bytes.length
    if limit < now then some moment else excess? limit now rest

/-- All that is written. -/
def output (t : Trace) : Bytes := t.writes.flatMap fun (_, bytes) => bytes

/-- When the output has been read. -/
def read? (t : Trace) (limit : Nat) : Option (Moment × Sighting) :=
  let sighting : Sighting := .outputRead (readable limit t.output)
  match excess? limit 0 t.writes with
  | some moment => some (moment, sighting)
  | none => t.closed.map fun moment => (moment, sighting)

/-- The sightings with their moments in the order of precedence: of two at one moment, the earlier
one in this list is seen first. -/
def timed (t : Trace) (terms : Terms) (cancel : Option Milliseconds) :
    List (Moment × Sighting) :=
  (cancel.map fun ms => (nanoseconds ms, Sighting.cancelled)).toList ++
    [(nanoseconds terms.timeout, .deadline)] ++
    (t.read? terms.limit).toList ++
    (t.ended.map fun (moment, status) => (moment, Sighting.exited status)).toList

/-- The sightings in the order in which they come. -/
def sightings (t : Trace) (terms : Terms) (cancel : Option Milliseconds) : List Sighting :=
  ((t.timed terms cancel).mergeSort fun a b => a.1 ≤ b.1).map Prod.snd

end Trace

end TemplateMap.Tool
