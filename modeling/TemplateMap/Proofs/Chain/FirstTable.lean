import Mathlib.Algebra.GroupWithZero.Nat
import TemplateMap.Proofs.Chain

/-! The course of a chain: its extractors are asked in order, each of them once, up to the first one
that gives a table with segments, and none after that one.  On the standard chain an answer of the
tool that leads to no table with segments leaves the outcome to the extractors after it, and the
tool runs once on an artifact that can be read and on no other. -/

namespace TemplateMap

/-- An extractor that is asked about a source. -/
structure Ask where
  extractor : Extractor
  source : Source

namespace Ask

def attempt (a : Ask) : Attempt := a.extractor.extract a.source

def found? (a : Ask) : Option TierTable := a.extractor.found? a.source

/-- What is logged of an extractor that is passed over: its own events and the reason. -/
def skippedLog (a : Ask) : Log :=
  a.attempt.log ++
    match a.attempt.result with
    | .ok _ => [.tierEmpty a.extractor.tier a.source.template.name]
    | .error e => [Chain.failureEvent a.extractor.tier e]

end Ask

/-- The source as an extractor leaves it: the files may be others. -/
def Extractor.left (e : Extractor) (source : Source) : Source :=
  { source with files := (e.extract source).files }

namespace Chain

/-- The source as extractors leave it that are asked one after the other. -/
def left (source : Source) (chain : Chain) : Source := chain.foldl (fun s e => e.left s) source

/-- Each extractor of a chain asked once, in order, about the source as those before it leave it. -/
def asks (source : Source) : Chain → List Ask
  | [] => []
  | e :: rest => ⟨e, source⟩ :: asks (e.left source) rest

/-- What a run of a chain does.  Either the extractors in `skipped` give no table with segments, the
next one gives `t`, and the run is nothing but these asks; or no extractor gives one, and the run is
an ask of each. -/
inductive Course (source : Source) (chain : Chain) (run : ChainRun) : Prop
  | found (skipped : Chain) (e : Extractor) (rest : Chain) (t : TierTable)
      (order : chain = skipped ++ e :: rest)
      (fruitless : ∀ ask ∈ asks source skipped, ask.found? = none)
      (found : e.found? (left source skipped) = some t)
      (run_eq : run =
        let attempt := e.extract (left source skipped)
        ⟨some t,
          (asks source skipped).flatMap Ask.skippedLog ++
            (attempt.log ++ chosenLog t.tier t.table (left source skipped)),
          ((asks source skipped).map fun ask => ask.attempt.toolRuns).sum + attempt.toolRuns,
          attempt.files⟩)
  | nothing (fruitless : ∀ ask ∈ asks source chain, ask.found? = none)
      (run_eq : run =
        ⟨none, (asks source chain).flatMap Ask.skippedLog,
          ((asks source chain).map fun ask => ask.attempt.toolRuns).sum,
          (left source chain).files⟩)

variable {source : Source} {e : Extractor} {t : TierTable}

theorem run_cons_of_some (h : e.found? source = some t) (rest : Chain) :
    run source (e :: rest) =
      ⟨some t, (e.extract source).log ++ chosenLog t.tier t.table source,
        (e.extract source).toolRuns, (e.extract source).files⟩ := by
  obtain ⟨htier, hresult, hne⟩ := Extractor.found?_eq_some_iff.mp h
  obtain ⟨tier, table⟩ := t
  subst htier
  obtain ⟨segment, table, rfl⟩ := List.exists_cons_of_ne_nil hne
  simp only [run, hresult]

theorem run_cons_of_none (h : e.found? source = none) (rest : Chain) :
    run source (e :: rest) =
      let later := run (e.left source) rest
      ⟨later.found, Ask.skippedLog ⟨e, source⟩ ++ later.log,
        (e.extract source).toolRuns + later.toolRuns, later.files⟩ := by
  unfold Extractor.found? at h
  cases hresult : (e.extract source).result with
  | error error => simp [run, Ask.skippedLog, Ask.attempt, Extractor.left, hresult]
  | ok table =>
    cases table with
    | nil => simp [run, Ask.skippedLog, Ask.attempt, Extractor.left, hresult]
    | cons segment table => simp [hresult] at h

/-- Every run takes its course. -/
theorem run_course (source : Source) (chain : Chain) : Course source chain (run source chain) := by
  induction chain generalizing source with
  | nil => exact .nothing nofun rfl
  | cons e rest ih =>
    cases hfound : e.found? source with
    | some t =>
      refine .found [] e rest t rfl nofun hfound ?_
      rw [run_cons_of_some hfound]
      simp [asks, left]
    | none =>
      have hskip := run_cons_of_none hfound rest
      cases ih (e.left source) with
      | found skipped e' rest' t order fruitless found run_eq =>
        refine .found (e :: skipped) e' rest' t (by rw [order]; rfl)
          (List.forall_mem_cons.mpr ⟨hfound, fruitless⟩) found ?_
        rw [hskip, run_eq]
        simp only [asks, List.flatMap_cons, List.map_cons, List.sum_cons, List.append_assoc,
          Nat.add_assoc]
        rfl
      | nothing fruitless run_eq =>
        refine .nothing (List.forall_mem_cons.mpr ⟨hfound, fruitless⟩) ?_
        rw [hskip, run_eq]
        rfl

/-- Nothing is found exactly when each extractor in its turn gives no table with segments. -/
theorem found_eq_none_iff (source : Source) (chain : Chain) :
    (run source chain).found = none ↔ ∀ ask ∈ asks source chain, ask.found? = none := by
  induction chain generalizing source with
  | nil => exact iff_of_true rfl nofun
  | cons e rest ih =>
    rw [found_cons, Option.or_eq_none_iff, asks, List.forall_mem_cons]
    exact and_congr_right fun _ => ih (e.left source)

theorem toolRuns_of_quiet {chain : Chain} (h : ∀ e ∈ chain, e.Quiet) (source : Source) :
    (run source chain).toolRuns = 0 := by
  induction chain generalizing source with
  | nil => rfl
  | cons e rest ih =>
    have hfirst := (h e List.mem_cons_self source).1
    cases hfound : e.found? source with
    | some t => rw [run_cons_of_some hfound, hfirst]
    | none =>
      rw [run_cons_of_none hfound]
      simp only [hfirst, ih (fun e' he' => h e' (List.mem_cons_of_mem _ he')) (e.left source)]

end Chain

/-! ### The tool's extractor -/

/-- An answer of the tool that leads to no table with segments: a failure, or an output without the
section, without a whole blob in it, or without a record in the blob that is kept. -/
inductive Tool.Fruitless (config : Config) (template : Template) : Except ToolError Text → Prop
  | failure (e : ToolError) : Fruitless config template (.error e)
  | noSection {output : Text} (missing : Dump.section? output config.sectionHeader = none) :
      Fruitless config template (.ok output)
  | noBlob {output body : Text} {e : TierError}
      (body_eq : Dump.section? output config.sectionHeader = some body)
      (missing : findBlob (Utf8.encode body) config.blobStart config.blobEnd = .error e) :
      Fruitless config template (.ok output)
  | noRecord {output body : Text} {blob : Bytes}
      (body_eq : Dump.section? output config.sectionHeader = some body)
      (blob_eq : findBlob (Utf8.encode body) config.blobStart config.blobEnd = .ok blob)
      (missing : Stratum.parse (Utf8.decodeLossy blob) template = []) :
      Fruitless config template (.ok output)

variable {config : Config} {tool : Tool} {source : Source}

/-- The tool's extractor gives no table with segments exactly when the artifact cannot be read or
the tool's answer leads to none. -/
theorem Extractor.toolDump_found?_eq_none_iff :
    (toolDump config tool).found? source = none ↔ source.artifact = none ∨
      Tool.Fruitless config source.template (tool source.files source.artifactPath).output := by
  unfold found?
  cases hartifact : source.artifact with
  | none => simp [toolDump, hartifact, quiet]
  | some bytes =>
    simp only [toolDump, hartifact, reduceCtorEq, false_or]
    cases houtput : (tool source.files source.artifactPath).output with
    | error e => exact iff_of_true rfl (.failure e)
    | ok output =>
      simp only [blobInDump]
      cases hbody : Dump.section? output config.sectionHeader with
      | none => exact iff_of_true rfl (.noSection hbody)
      | some body =>
        simp only
        cases hblob : findBlob (Utf8.encode body) config.blobStart config.blobEnd with
        | error e => exact iff_of_true rfl (.noBlob hbody hblob)
        | ok blob =>
          simp only [Except.map, ofBlob]
          cases hparse : Stratum.parse (Utf8.decodeLossy blob) source.template with
          | nil => exact iff_of_true rfl (.noRecord hbody hblob hparse)
          | cons segment table =>
            refine iff_of_false (Option.some_ne_none _) fun h => ?_
            cases h with
            | noSection missing => rw [hbody] at missing; cases missing
            | noBlob body_eq missing =>
              obtain rfl := Option.some.inj (hbody.symm.trans body_eq)
              rw [hblob] at missing
              cases missing
            | noRecord body_eq blob_eq missing =>
              obtain rfl := Option.some.inj (hbody.symm.trans body_eq)
              obtain rfl := Except.ok.inj (hblob.symm.trans blob_eq)
              rw [hparse] at missing
              cases missing

/-- What the tool's extractor does to the world: it runs the tool once on an artifact that can be
read, and does nothing on another one. -/
theorem Extractor.toolDump_runs (config : Config) (tool : Tool) (source : Source) :
    ((toolDump config tool).extract source).toolRuns = (if source.artifact.isSome then 1 else 0) ∧
    ((toolDump config tool).extract source).files =
      if source.artifact.isSome then (tool source.files source.artifactPath).files
      else source.files := by
  cases hartifact : source.artifact <;> simp [toolDump, hartifact, quiet]

namespace Chain

/-- Where the tool's extractor gives nothing, the rest of the standard chain decides. -/
theorem found_standard_of_toolDump (h : (Extractor.toolDump config tool).found? source = none) :
    (run source (standard config tool)).found = (run source (toolless config)).found := by
  rw [standard_eq, found_cons, h, Option.none_or]
  exact found_toolless_congr rfl rfl rfl

theorem standard_runs :
    (run source (standard config tool)).toolRuns = (if source.artifact.isSome then 1 else 0) ∧
    (run source (standard config tool)).files =
      if source.artifact.isSome then (tool source.files source.artifactPath).files
      else source.files := by
  obtain ⟨hruns, hfiles⟩ := Extractor.toolDump_runs config tool source
  rw [standard_eq]
  cases hfound : (Extractor.toolDump config tool).found? source with
  | some t => rw [run_cons_of_some hfound, hruns, hfiles]; exact ⟨rfl, rfl⟩
  | none =>
    rw [run_cons_of_none hfound]
    have hquiet : ∀ e ∈ toolless config, e.Quiet := fun e => quiet_of_mem_toolless
    have hrest := toolRuns_of_quiet hquiet ((Extractor.toolDump config tool).left source)
    have hkept := files_run (fun e he s => (hquiet e he s).2)
      ((Extractor.toolDump config tool).left source)
    constructor
    · simp only [hrest, hruns, Nat.add_zero]
    · simp only [hkept]
      exact hfiles

/-- A run asks the extractors of a chain in order, each once and none after the first that gives a
table with segments, which is what it finds; it finds nothing exactly when there is no such
extractor.  The standard chain finds what it would find without the tool, so gives the same answers,
whenever the tool's answer leads to no table with segments; and it runs the tool once if the
artifact can be read, and not at all otherwise. -/
theorem run_firstTable :
    (∀ source chain, Course source chain (run source chain) ∧
      ((run source chain).found = none ↔ ∀ ask ∈ asks source chain, ask.found? = none)) ∧
    ∀ config tool source,
      (Tool.Fruitless config source.template (tool source.files source.artifactPath).output →
        (run source (standard config tool)).found = (run source [Extractor.embeddedBlob config,
          Extractor.sourceComments config, Extractor.structuralEstimate config]).found) ∧
      (run source (standard config tool)).toolRuns = (if source.artifact.isSome then 1 else 0) ∧
      (run source (standard config tool)).files =
        if source.artifact.isSome then (tool source.files source.artifactPath).files
        else source.files := by
  refine ⟨fun source chain => ⟨run_course source chain, found_eq_none_iff source chain⟩, ?_⟩
  intro config tool source
  refine ⟨fun hfruitless => ?_, standard_runs⟩
  exact found_standard_of_toolDump (Extractor.toolDump_found?_eq_none_iff.mpr (.inr hfruitless))

/-- A class file without a blob beside an empty source. -/
def bareSource : Source where
  artifactPath := "a.class".toList
  artifact := some [0xca, 0xfe]
  generated := some []
  template := ⟨"a.jsp".toList⟩
  files := .empty

/-- An output that ends in the middle of a blob. -/
def cutOutput : Text := "SourceDebugExtension:\n  SMAP\n  *L\n  1:7\n".toList

theorem cutOutput_firstTable :
    let tool := Tool.always (.ok cutOutput)
    Tool.Fruitless .standard bareSource.template (tool bareSource.files "a.class".toList).output ∧
    (run bareSource (standard .standard tool)).found =
      some ⟨.structuralEstimate, [Segment.single 1 1]⟩ ∧
    (run bareSource (standard .standard tool)).toolRuns = 1 := by
  intro tool
  have hsection : Dump.section? cutOutput Config.standard.sectionHeader =
      some "  SMAP\n  *L\n  1:7\n".toList := by decide +kernel
  have hfruitless : Tool.Fruitless .standard bareSource.template (.ok cutOutput) :=
    .noBlob hsection rfl
  obtain ⟨hfound, hruns, -⟩ := run_firstTable.2 .standard tool bareSource
  refine ⟨hfruitless, (hfound hfruitless).trans ?_, hruns⟩
  decide +kernel

end Chain

end TemplateMap
