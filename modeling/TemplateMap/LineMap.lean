import TemplateMap.Number.Binary64
import TemplateMap.Segment

/-! Line maps: which generated line each template line has, in ascending order of template lines,
and the filling of small gaps between them. -/

namespace TemplateMap

/-- Pairs of a template line and its generated line, ascending in the template line. -/
abbrev LineMap := List (Nat × Nat)

namespace LineMap

/-- The map with the line of `t` set to `g`. -/
def set (t g : Nat) : LineMap → LineMap
  | [] => [(t, g)]
  | (a, b) :: rest =>
    if t < a then (t, g) :: (a, b) :: rest
    else if t = a then (t, g) :: rest
    else (a, b) :: set t g rest

/-- The map with the line of `t` set to `g`, unless it has one. -/
def setNew (t g : Nat) : LineMap → LineMap
  | [] => [(t, g)]
  | (a, b) :: rest =>
    if t < a then (t, g) :: (a, b) :: rest
    else if t = a then (a, b) :: rest
    else (a, b) :: setNew t g rest

/-- The map of pairs in any order, where a later pair replaces an earlier one. -/
def ofPairs (pairs : List (Nat × Nat)) : LineMap :=
  pairs.foldl (fun m p => m.set p.1 p.2) []

/-- The generated lines for each template line on the straight line from `p` to `q`, a binary64
quotient. -/
def slope (p q : Nat × Nat) : Rat :=
  Binary64.nearest ((q.2 - p.2 : Nat) / ((q.1 - p.1 : Nat) : Rat))

/-- The generated line `step` template lines after `p` on the straight line with a slope; each
operation is a binary64 one. -/
def lineAlong (p : Nat × Nat) (slope : Rat) (step : Nat) : Nat :=
  let rise := Binary64.nearest ((step : Rat) * slope)
  min (roundHalfAway (Binary64.nearest ((p.2 : Rat) + rise))).toNat lastLine

/-- The pairs between `p` and `q`: one for each template line between them, if they are at most
`maxGap` apart and the generated lines ascend. -/
def filling (maxGap : Nat) (p q : Nat × Nat) : List (Nat × Nat) :=
  let gap := q.1 - p.1
  if gap ≤ maxGap ∧ p.2 < q.2 then
    let slope := slope p q
    (List.range (gap - 1)).map fun i => (p.1 + (i + 1), lineAlong p slope (i + 1))
  else []

/-- The map with all gaps of at most `maxGap` filled. -/
def densify (maxGap : Nat) : LineMap → LineMap
  | [] => []
  | [p] => [p]
  | p :: q :: rest => p :: (filling maxGap p q ++ densify maxGap (q :: rest))

/-- The segments of a map, one for each line. -/
def toSegments (m : LineMap) : List Segment := m.map fun p => Segment.single p.1 p.2

end LineMap

end TemplateMap
