import TemplateMap.Config
import TemplateMap.Table

/-! Methods in a generated source: the span of lines of the one that holds the template's output,
and the tables that guess from it how the template is spread. -/

namespace TemplateMap

/-- The lines from `first` to `last` of a source, counted from zero. -/
structure MethodSpan where
  first : Nat
  last : Nat
  deriving DecidableEq, Repr

namespace MethodSpan

/-- How many lines the last line is after the first. -/
def width (span : MethodSpan) : Nat := span.last - span.first

end MethodSpan

namespace Method

/-- Whether a line names the method and opens a parameter list. -/
def declares (anchor line : Text) : Bool := occursIn anchor line && line.contains '('

/-- The brace depth after a line, and whether a brace has been opened by then. -/
def depthAfter (state : Int × Bool) (line : Text) : Int × Bool :=
  line.foldl (fun (depth, opened) c =>
    if c = '\x7b' then (depth + 1, true)
    else if c = '\x7d' then (depth - 1, opened)
    else (depth, opened)) state

/-- How many of the lines to the first one that ends with all opened braces closed, given the depth
before them. -/
def closing? (state : Int × Bool) : List Text → Option Nat
  | [] => none
  | line :: rest =>
    let after := depthAfter state line
    if after.2 && after.1 ≤ 0 then some 0 else (closing? after rest).map (· + 1)

/-- The span of the first method whose declaration names `anchor`: to the first line below the
declaration at whose end its braces are closed, or to the last line of the source. -/
def find? (lines : List Text) (anchor : Text) : Option MethodSpan :=
  match lines.findIdx? (declares anchor) with
  | none => none
  | some first =>
    let last := match lines.drop first with
      | [] => none
      | declaration :: below => closing? (depthAfter (0, false) declaration) below
    match last with
    | some below => some ⟨first, first + 1 + below⟩
    | none => some ⟨first, lines.length - 1⟩

/-- The table that spreads template lines evenly over a span, one for every `divisor` lines, the
first on the first line of the span and the last on its last. -/
def spread (divisor : Nat) (span : MethodSpan) : Table :=
  let count := max 1 (span.width / max 1 divisor)
  let steps := max 1 (count - 1)
  (List.range count).map fun i =>
    Segment.single (i + 1) (span.first + i * span.width / steps + 1)

/-- The table that puts the first template line past the boilerplate at the top of a source of
`total` lines: a fraction of the source, but no more than `boilerplateLines`. -/
def afterBoilerplate (config : Config) (total : Nat) : Table :=
  let share := config.boilerplateFraction.shareOf total
  [Segment.single 1 (max 1 (min share config.boilerplateLines))]

end Method

end TemplateMap
