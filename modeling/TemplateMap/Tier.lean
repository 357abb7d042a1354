import TemplateMap.Text.Basic

/-! Tiers: the ways to obtain a table, from the most to the least reliable. -/

namespace TemplateMap

/-- A way to obtain a table. -/
inductive Tier
  | toolDump
  | embeddedBlob
  | sourceComments
  | structuralEstimate
  deriving DecidableEq, Repr

namespace Tier

/-- All tiers, the most reliable first. -/
def all : List Tier := [.toolDump, .embeddedBlob, .sourceComments, .structuralEstimate]

/-- The written name of a tier. -/
def shown : Tier → String
  | .toolDump => "tool-dump"
  | .embeddedBlob => "embedded-blob"
  | .sourceComments => "source-comments"
  | .structuralEstimate => "structural-estimate"

/-- Whether every line of the tier's tables is an estimate. -/
def isApproximate (tier : Tier) : Bool := tier = .structuralEstimate

end Tier

end TemplateMap
