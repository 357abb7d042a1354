import TemplateMap.Extraction
import TemplateMap.Proofs.Chain
import TemplateMap.Proofs.Word.Dump
import TemplateMap.Proofs.Word.LineMap
import TemplateMap.Proofs.Word.Method

/-! The extractors and the chain on machine words: on files and output of a tool that are below 2^32
bytes, none of them stops. -/

namespace TemplateMap

/-- An extractor whose program may stop. -/
structure CheckedExtractor where
  tier : Tier
  extract : Source → Checked Attempt

/-- What a chain reads, and what its tool gives for it, has a length that 32 bits hold. -/
structure Source.Fits (source : Source) (tool : Tool) : Prop where
  artifact : ∀ bytes, source.artifact = some bytes → bytes.length ≤ Config.maxHalfWord
  generated : ∀ t, source.generated = some t → t.length ≤ Config.maxHalfWord
  output : ∀ t, (tool source.files source.artifactPath).output = .ok t →
    Utf8.size t ≤ Config.maxHalfWord

namespace Word

theorem maxHalfWord_le : Config.maxHalfWord ≤ Config.maxWord := by decide

/-- The blob in a tool's output. -/
def blobInDump (config : Config) (output : Text) : Checked (Except TierError Text) := do
  match ← section? output config.sectionHeader with
  | none => return .error (.noSection config.sectionHeader)
  | some body =>
    return (← findBlob (Utf8.encode body) config.blobStart config.blobEnd).map Utf8.decodeLossy

theorem blobInDump_eq (config : Config) {output : Text} (h : Utf8.size output ≤ Config.maxWord) :
    blobInDump config output = .ok (Extractor.blobInDump config output) := by
  rw [blobInDump, section?_eq h, Loop.ok_bind, Extractor.blobInDump]
  cases hbody : Dump.section? output config.sectionHeader with
  | none => rfl
  | some body =>
    have hsize : (Utf8.encode body).length ≤ Config.maxWord :=
      Nat.le_trans (Dump.size_section?_le hbody) h
    simp only [findBlob_eq hsize]
    rfl

/-- The stratum text that the tool shows of the artifact. -/
def toolDump (config : Config) (tool : Tool) : CheckedExtractor where
  tier := .toolDump
  extract source :=
    match source.artifact with
    | none => return Extractor.quiet source (.error .artifactUnreadable) []
    | some _ => do
      let run := tool source.files source.artifactPath
      let blob ← match run.output with
        | .error e => pure (.error (.tool e))
        | .ok output => blobInDump config output
      let (result, log) := Extractor.ofBlob blob source.template
      return ⟨result, run.log ++ log, 1, run.files⟩

/-- The stratum text in the bytes of the artifact. -/
def embeddedBlob (config : Config) : CheckedExtractor where
  tier := .embeddedBlob
  extract source :=
    match source.artifact with
    | none => return Extractor.quiet source (.error .artifactUnreadable) []
    | some bytes => do
      let blob := (← findBlob bytes config.blobStart config.blobEnd).map Latin1.decode
      let (result, log) := Extractor.ofBlob blob source.template
      return Extractor.quiet source result log

/-- The line comments in the generated source, with small gaps between them filled. -/
def sourceComments (config : Config) : CheckedExtractor where
  tier := .sourceComments
  extract source :=
    match source.generated with
    | none => return Extractor.quiet source (.error .sourceUnreadable) []
    | some generated => do
      let exact ← annotations source.template generated
      if exact.isEmpty then
        return Extractor.quiet source (.error (.noAnnotations source.template.name)) []
      let dense ← densify config.maxGap exact
      return Extractor.quiet source (.ok dense.toSegments)
        [.densified exact.length dense.length config.maxGap]

/-- The guess from the extent of the method that holds the template's output. -/
def structuralEstimate (config : Config) : CheckedExtractor where
  tier := .structuralEstimate
  extract source :=
    match source.generated with
    | none => return Extractor.quiet source (.error .sourceUnreadable) []
    | some generated => do
      let lines := generated.lines
      match ← find? lines config.anchor with
      | some span =>
        let first ← add Config.maxWord span.first 1
        let last ← add Config.maxWord span.last 1
        let table ← spread config.divisor span
        return Extractor.quiet source (.ok table) [.methodFound config.anchor first last]
      | none =>
        return Extractor.quiet source (.ok (Method.afterBoilerplate config lines.length))
          [.methodMissing config.anchor]

section Extractors

variable {config : Config} {tool : Tool} {source : Source}

theorem toolDump_eq (h : source.Fits tool) :
    (toolDump config tool).extract source =
      .ok ((Extractor.toolDump config tool).extract source) := by
  simp only [toolDump, Extractor.toolDump]
  cases source.artifact with
  | none => rfl
  | some bytes =>
    cases houtput : (tool source.files source.artifactPath).output with
    | error e => rfl
    | ok output =>
      have hsize := Nat.le_trans (h.output output houtput) maxHalfWord_le
      simp only [blobInDump_eq config hsize]
      rfl

theorem embeddedBlob_eq
    (h : ∀ bytes, source.artifact = some bytes → bytes.length ≤ Config.maxHalfWord) :
    (embeddedBlob config).extract source =
      .ok ((Extractor.embeddedBlob config).extract source) := by
  simp only [embeddedBlob, Extractor.embeddedBlob]
  cases hartifact : source.artifact with
  | none => rfl
  | some bytes =>
    have hlength := Nat.le_trans (h bytes hartifact) maxHalfWord_le
    simp only [findBlob_eq hlength]
    rfl

theorem sourceComments_eq
    (h : ∀ t, source.generated = some t → t.length ≤ Config.maxHalfWord) :
    (sourceComments config).extract source =
      .ok ((Extractor.sourceComments config).extract source) := by
  simp only [sourceComments, Extractor.sourceComments]
  cases hgenerated : source.generated with
  | none => rfl
  | some generated =>
    have hlines := Nat.le_trans (Text.length_lines_le generated) (h generated hgenerated)
    have hordered := (Extractor.annotations_ordered source.template generated).1
    simp only [annotations_eq source.template hlines, Loop.ok_bind]
    by_cases hempty : (Extractor.annotations source.template generated).isEmpty = true
    · simp only [if_pos hempty]
      rfl
    · simp only [if_neg hempty, densify_eq hordered]
      rfl

theorem structuralEstimate_eq
    (h : ∀ t, source.generated = some t → t.length ≤ Config.maxHalfWord) :
    (structuralEstimate config).extract source =
      .ok ((Extractor.structuralEstimate config).extract source) := by
  simp only [structuralEstimate, Extractor.structuralEstimate]
  cases hgenerated : source.generated with
  | none => rfl
  | some generated =>
    have hlength := h generated hgenerated
    have hlines := Nat.le_trans (Text.length_lines_le generated) hlength
    unfold Config.maxHalfWord at hlength hlines
    have hcount : Text.charCount generated.lines ≤ 9223372036854775807 :=
      Nat.le_trans (Text.charCount_lines_le generated) (by omega)
    simp only [find?_eq hcount, Loop.ok_bind]
    cases hspan : Method.find? generated.lines config.anchor with
    | none => rfl
    | some span =>
      obtain ⟨hle, hlast⟩ := Method.span_of_find? hspan
      have hfirstLine : span.first + 1 ≤ Config.maxWord := by unfold Config.maxWord; omega
      have hlastLine : span.last + 1 ≤ Config.maxWord := by unfold Config.maxWord; omega
      have hwidth : span.last ≤ Config.maxHalfWord := by unfold Config.maxHalfWord; omega
      simp only [add_eq_ok hfirstLine, add_eq_ok hlastLine, spread_eq hle hwidth]
      rfl

end Extractors

/-- The table of the first extractor that has one with segments. -/
def run (source : Source) : List CheckedExtractor → Checked ChainRun
  | [] => return ⟨none, [], 0, source.files⟩
  | extractor :: rest => do
    let attempt ← extractor.extract source
    let tier := extractor.tier
    let next (event : Event) : Checked ChainRun := do
      let later ← run { source with files := attempt.files } rest
      return ⟨later.found, attempt.log ++ event :: later.log, attempt.toolRuns + later.toolRuns,
        later.files⟩
    match attempt.result with
    | .ok [] => next (.tierEmpty tier source.template.name)
    | .ok table =>
      return ⟨some ⟨tier, table⟩, attempt.log ++ Chain.chosenLog tier table source,
        attempt.toolRuns, attempt.files⟩
    | .error e => next (Chain.failureEvent tier e)

/-- A chain does not stop if neither its first extractor nor the rest of it does. -/
theorem run_cons_eq {c : CheckedExtractor} {cs : List CheckedExtractor} {e : Extractor}
    {chain : Chain} {source : Source} (htier : c.tier = e.tier)
    (hfirst : c.extract source = .ok (e.extract source))
    (hrest : ∀ files, run { source with files := files } cs =
      .ok (Chain.run { source with files := files } chain)) :
    run source (c :: cs) = .ok (Chain.run source (e :: chain)) := by
  simp only [run, hfirst, Loop.ok_bind, hrest, htier, Chain.run]
  cases (e.extract source).result with
  | error error => rfl
  | ok table => cases table <;> rfl

/-- One extractor for each tier, the most reliable first. -/
def standard (config : Config) (tool : Tool) : List CheckedExtractor :=
  [toolDump config tool, embeddedBlob config, sourceComments config, structuralEstimate config]

theorem run_standard_eq {source : Source} {tool : Tool} (h : source.Fits tool) (config : Config) :
    run source (standard config tool) = .ok (Chain.run source (Chain.standard config tool)) := by
  rw [Chain.standard_eq]
  refine run_cons_eq rfl (toolDump_eq h) fun files => ?_
  refine run_cons_eq rfl (embeddedBlob_eq h.artifact) fun files => ?_
  refine run_cons_eq rfl (sourceComments_eq h.generated) fun files => ?_
  exact run_cons_eq rfl (structuralEstimate_eq h.generated) fun files => rfl

end Word

end TemplateMap
