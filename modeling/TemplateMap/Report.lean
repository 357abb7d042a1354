import TemplateMap.Answer
import TemplateMap.Json.Value

/-! Reports: what is told about a table, as lines of text or as JSON. -/

namespace TemplateMap

/-- A query with its answer. -/
structure Answered where
  query : Int
  answer : Answer
  deriving DecidableEq

/-- What is told about a table: where it came from and the answers to queries, and all its segments
if they were asked for. -/
structure Report where
  artifact : Text
  template : Text
  source : TierTable
  dump : Bool
  forward : List Answered
  reverse : List Answered

namespace Answered

/-- The line of text for a query among the lines of `asked` that was answered among those of
`given`. -/
def line (asked given : String) (a : Answered) : Text :=
  asked.toList ++ ' ' :: Text.ofInt a.query ++ " -> ".toList ++ given.toList ++
    ' ' :: Text.ofNat a.answer.line ++ " (".toList ++ a.answer.confidence.shown.toList ++
    ", ".toList ++ a.answer.tier.shown.toList ++ [')']

/-- The query and its answer as data. -/
def json (a : Answered) : Json.Value :=
  .object
    [("query".toList, .ofInt a.query),
      ("line".toList, .ofNat a.answer.line),
      ("confidence".toList, .ofString a.answer.confidence.name),
      ("tier".toList, .ofString a.answer.tier.shown),
      ("approximate".toList, .bool a.answer.isApproximate)]

end Answered

namespace Report

/-- The lines that introduce a report. -/
def headLines (r : Report) : List Text :=
  ["jspmap v0.1.0".toList,
    "artifact: ".toList ++ r.artifact,
    "table: ".toList ++ Text.ofNat r.source.table.length ++ " segments (".toList ++
      r.source.tier.shown.toList ++ [')']]

/-- The report in lines of text, with an introduction unless it is to be quiet. -/
def lines (r : Report) (quiet : Bool) : List Text :=
  (if quiet then [] else r.headLines) ++
    (if r.dump then r.source.table.map fun s => ' ' :: ' ' :: s.shown else []) ++
    r.forward.map (Answered.line "template" "generated") ++
    r.reverse.map (Answered.line "generated" "template")

/-- The report as data. -/
def json (r : Report) : Json.Value :=
  let segments :=
    if r.dump then
      [("segments".toList, Json.Value.array (r.source.table.map fun s => .string s.shown))]
    else []
  .object
    ([("artifact".toList, .string r.artifact), ("template".toList, .string r.template),
      ("tier".toList, .ofString r.source.tier.shown)] ++ segments ++
      [("forward".toList, .array (r.forward.map Answered.json)),
        ("reverse".toList, .array (r.reverse.map Answered.json))])

/-- All that is printed of a report. -/
def printed (r : Report) (json quiet : Bool) : Text :=
  if json then (r.json.indented 0).toList ++ ['\n']
  else (r.lines quiet).flatMap fun line => line ++ ['\n']

end Report

end TemplateMap
