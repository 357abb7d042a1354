import TemplateMap.Annotation
import TemplateMap.Blob
import TemplateMap.FileSystem
import TemplateMap.LineMap
import TemplateMap.Method
import TemplateMap.Stratum

/-! Extraction: one extractor per tier, and the chain that tries extractors in order until one has a
table with segments. -/

namespace TemplateMap

/-- What a table can be made from: the artifact's path, the contents of the two files as far as they
could be read, the template, and the files among which a tool runs. -/
structure Source where
  artifactPath : Path
  artifact : Option Bytes
  generated : Option Text
  template : Template
  files : FileSystem

/-- What running the tool on an artifact gives, and the files as it leaves them. -/
structure ToolRun where
  output : Except ToolError Text
  log : Log
  files : FileSystem

/-- A tool that can be run on the artifact at a path, among files. -/
abbrev Tool := FileSystem → Path → ToolRun

namespace Tool

/-- The tool that always gives the same and leaves all files alone. -/
def always (output : Except ToolError Text) : Tool := fun files _ => ⟨output, [], files⟩

end Tool

/-- What one extractor found, what it logged, how often it ran the tool, and the files after that.
-/
structure Attempt where
  result : Except TierError Table
  log : Log
  toolRuns : Nat
  files : FileSystem

/-- A way to a table, with the tier it belongs to. -/
structure Extractor where
  tier : Tier
  extract : Source → Attempt

namespace Extractor

/-- The attempt that runs no tool. -/
def quiet (source : Source) (result : Except TierError Table) (log : Log) : Attempt :=
  ⟨result, log, 0, source.files⟩

/-- The table of a blob of stratum text, or the failure to find the blob, with what is logged. -/
def ofBlob (blob : Except TierError Text) (template : Template) :
    Except TierError Table × Log :=
  match blob with
  | .error e => (.error e, [])
  | .ok text => (.ok (Stratum.parse text template), Stratum.parseLog text template)

/-- The blob in a tool's output: the one in its section. -/
def blobInDump (config : Config) (output : Text) : Except TierError Text :=
  match Dump.section? output config.sectionHeader with
  | none => .error (.noSection config.sectionHeader)
  | some body =>
    (findBlob (Utf8.encode body) config.blobStart config.blobEnd).map Utf8.decodeLossy

/-- The stratum text that the tool shows of the artifact.  The tool is not run on an artifact that
cannot be read. -/
def toolDump (config : Config) (tool : Tool) : Extractor where
  tier := .toolDump
  extract source :=
    match source.artifact with
    | none => quiet source (.error .artifactUnreadable) []
    | some _ =>
      let run := tool source.files source.artifactPath
      let blob := match run.output with
        | .error e => .error (.tool e)
        | .ok output => blobInDump config output
      let (result, log) := ofBlob blob source.template
      ⟨result, run.log ++ log, 1, run.files⟩

/-- The stratum text in the bytes of the artifact. -/
def embeddedBlob (config : Config) : Extractor where
  tier := .embeddedBlob
  extract source :=
    match source.artifact with
    | none => quiet source (.error .artifactUnreadable) []
    | some bytes =>
      let blob := (findBlob bytes config.blobStart config.blobEnd).map Latin1.decode
      let (result, log) := ofBlob blob source.template
      quiet source result log

/-- The template lines that the comments of a generated source announce: each goes to the generated
line after its first comment. -/
def annotations (template : Template) (generated : Text) : LineMap :=
  (generated.lines.zipIdx).foldl (fun m (line, index) =>
    match Annotation.ofLine? template line with
    | some t => m.setNew t (min (index + 2) lastLine)
    | none => m) []

/-- The line comments in the generated source, with small gaps between them filled. -/
def sourceComments (config : Config) : Extractor where
  tier := .sourceComments
  extract source :=
    match source.generated with
    | none => quiet source (.error .sourceUnreadable) []
    | some generated =>
      let exact := annotations source.template generated
      if exact.isEmpty then quiet source (.error (.noAnnotations source.template.name)) []
      else
        let dense := exact.densify config.maxGap
        quiet source (.ok dense.toSegments)
          [.densified exact.length dense.length config.maxGap]

/-- The guess from the extent of the method that holds the template's output. -/
def structuralEstimate (config : Config) : Extractor where
  tier := .structuralEstimate
  extract source :=
    match source.generated with
    | none => quiet source (.error .sourceUnreadable) []
    | some generated =>
      let lines := generated.lines
      match Method.find? lines config.anchor with
      | some span =>
        quiet source (.ok (Method.spread config.divisor span))
          [.methodFound config.anchor (span.first + 1) (span.last + 1)]
      | none =>
        quiet source (.ok (Method.afterBoilerplate config lines.length))
          [.methodMissing config.anchor]

/-- The extractor of a tier. -/
def ofTier (config : Config) (tool : Tool) : Tier → Extractor
  | .toolDump => toolDump config tool
  | .embeddedBlob => embeddedBlob config
  | .sourceComments => sourceComments config
  | .structuralEstimate => structuralEstimate config

end Extractor

/-- A table and the tier it came from. -/
structure TierTable where
  tier : Tier
  table : Table
  deriving DecidableEq

/-- What a chain found, what it logged, how often it ran the tool, and the files after that. -/
structure ChainRun where
  found : Option TierTable
  log : Log
  toolRuns : Nat
  files : FileSystem

/-- Extractors in the order in which they are tried. -/
abbrev Chain := List Extractor

namespace Chain

/-- One extractor for each tier, the most reliable first. -/
def standard (config : Config) (tool : Tool) : Chain := Tier.all.map (Extractor.ofTier config tool)

/-- The events that tell of a chosen table. -/
def chosenLog (tier : Tier) (table : Table) (source : Source) : Log :=
  .tierChosen tier table.length source.template.name source.artifactPath ::
    if tier.isApproximate then [.estimated source.template.name] else []

/-- The event that tells of a failed tier. -/
def failureEvent (tier : Tier) (e : TierError) : Event :=
  match e.kind with
  | .toolUnavailable => .tierUnavailable tier e.reason
  | kind => .tierSkipped tier kind.shown e.message

/-- The table of the first extractor that has one with segments.  Failures and empty tables only
lead on to the next extractor. -/
def run (source : Source) : Chain → ChainRun
  | [] => ⟨none, [], 0, source.files⟩
  | extractor :: rest =>
    let attempt := extractor.extract source
    let tier := extractor.tier
    let next (event : Event) : ChainRun :=
      let later := run { source with files := attempt.files } rest
      ⟨later.found, attempt.log ++ event :: later.log, attempt.toolRuns + later.toolRuns,
        later.files⟩
    match attempt.result with
    | .ok [] => next (.tierEmpty tier source.template.name)
    | .ok table =>
      ⟨some ⟨tier, table⟩, attempt.log ++ chosenLog tier table source, attempt.toolRuns,
        attempt.files⟩
    | .error e => next (failureEvent tier e)

end Chain

end TemplateMap
