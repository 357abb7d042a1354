import TemplateMap.Extraction

/-! Answers: a line found in a table, with the tier of the table, as the users of a table see it. -/

namespace TemplateMap

/-- A line, how it was found, and where its table came from. -/
structure Answer where
  line : Nat
  confidence : Confidence
  tier : Tier
  deriving DecidableEq

/-- The name of a confidence in data. -/
def Confidence.name : Confidence → String
  | .exact => "exact-match"
  | .interpolated => "interpolated"
  | .extrapolated => "extrapolated"

/-- The word for a confidence in text. -/
def Confidence.shown : Confidence → String
  | .exact => "exact"
  | .interpolated => "interpolated"
  | .extrapolated => "extrapolated"

namespace Answer

/-- Whether the line is an estimate: its table is one, or it lies outside what the table covers. -/
def isApproximate (a : Answer) : Bool := a.tier.isApproximate || a.confidence = .extrapolated

end Answer

namespace TierTable

/-- A hit in a table as an answer; a table without segments has none. -/
def answer (tier : Tier) : Option Hit → Except MappingError Answer
  | some hit => .ok ⟨hit.line, hit.confidence, tier⟩
  | none => .error .emptyTable

/-- The generated line of a template line. -/
def forward (t : TierTable) (line : Int) : Except MappingError Answer :=
  answer t.tier (t.table.forward? line)

/-- The template line of a generated line. -/
def reverse (t : TierTable) (line : Int) : Except MappingError Answer :=
  answer t.tier (t.table.reverse? line)

end TierTable

end TemplateMap
