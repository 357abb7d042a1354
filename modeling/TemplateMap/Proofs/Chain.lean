import Mathlib.Logic.Basic
import TemplateMap.Extraction

/-! What a chain finds: the first table with segments that one of its extractors gives.  What the
standard chain finds depends on the contents of the two files, the template and the answer of the
tool, and on nothing else of the source. -/

namespace TemplateMap

/-- The table with segments that an extractor gives, with its tier. -/
def Extractor.found? (e : Extractor) (source : Source) : Option TierTable :=
  match (e.extract source).result with
  | .ok [] => none
  | .ok table => some ⟨e.tier, table⟩
  | .error _ => none

theorem Extractor.found?_eq_some_iff {e : Extractor} {source : Source} {t : TierTable} :
    e.found? source = some t ↔
      t.tier = e.tier ∧ (e.extract source).result = .ok t.table ∧ t.table ≠ [] := by
  obtain ⟨tier, table⟩ := t
  unfold found?
  split
  next h => simp only [h, Except.ok.injEq]; grind
  next table' hne h => simp only [h, Option.some.injEq, TierTable.mk.injEq, Except.ok.injEq]; grind
  next h => simp [h]

namespace Chain

@[simp] theorem found_nil (source : Source) : (run source []).found = none := rfl

/-- The first extractor's table with segments is found, or else what the rest of the chain finds
among the files as the first one leaves them. -/
@[simp] theorem found_cons (source : Source) (e : Extractor) (rest : Chain) :
    (run source (e :: rest)).found =
      (e.found? source).or (run { source with files := (e.extract source).files } rest).found := by
  cases hresult : (e.extract source).result with
  | error error => simp [run, Extractor.found?, hresult]
  | ok table => cases table <;> simp [run, Extractor.found?, hresult]

/-- A chain finds no table without segments. -/
theorem table_ne_nil_of_found {source : Source} {chain : Chain} {t : TierTable}
    (h : (run source chain).found = some t) : t.table ≠ [] := by
  induction chain generalizing source with
  | nil => cases h
  | cons e rest ih =>
    rw [found_cons, Option.or_eq_some_iff] at h
    rcases h with h | ⟨-, h⟩
    · exact (Extractor.found?_eq_some_iff.mp h).2.2
    · exact ih h

/-- A chain of extractors that leave all files as they are does so too. -/
theorem files_run {chain : Chain}
    (h : ∀ e ∈ chain, ∀ source : Source, (e.extract source).files = source.files)
    (source : Source) : (run source chain).files = source.files := by
  induction chain generalizing source with
  | nil => rfl
  | cons e rest ih =>
    have hfirst := h e List.mem_cons_self source
    have hrest := ih (fun e' he' => h e' (List.mem_cons_of_mem _ he'))
    simp only [run]
    split
    · simp [hrest, hfirst]
    · exact hfirst
    · simp [hrest, hfirst]

end Chain

section Standard

variable {config : Config} {tool tool' : Tool} {a b : Source}

theorem Extractor.found?_congr {e e' : Extractor} (htier : e.tier = e'.tier)
    (hresult : (e.extract a).result = (e'.extract b).result) : e.found? a = e'.found? b := by
  simp only [found?, htier, hresult]

theorem Extractor.toolDump_congr (hartifact : a.artifact = b.artifact)
    (htemplate : a.template = b.template)
    (htool : a.artifact ≠ none →
      (tool a.files a.artifactPath).output = (tool' b.files b.artifactPath).output) :
    ((toolDump config tool).extract a).result = ((toolDump config tool').extract b).result := by
  simp only [toolDump]
  rw [← hartifact, ← htemplate]
  cases hbytes : a.artifact with
  | none => rfl
  | some bytes =>
    simp only
    rw [htool (by simp [hbytes])]

theorem Extractor.embeddedBlob_congr (hartifact : a.artifact = b.artifact)
    (htemplate : a.template = b.template) :
    ((embeddedBlob config).extract a).result = ((embeddedBlob config).extract b).result := by
  simp only [embeddedBlob]
  rw [← hartifact, ← htemplate]
  cases a.artifact <;> rfl

theorem Extractor.sourceComments_congr (hgenerated : a.generated = b.generated)
    (htemplate : a.template = b.template) :
    ((sourceComments config).extract a).result = ((sourceComments config).extract b).result := by
  simp only [sourceComments]
  rw [← hgenerated, ← htemplate]
  cases a.generated with
  | none => rfl
  | some generated => by_cases hempty : (annotations a.template generated).isEmpty <;>
      simp only [hempty] <;> rfl

theorem Extractor.structuralEstimate_congr (hgenerated : a.generated = b.generated) :
    ((structuralEstimate config).extract a).result =
      ((structuralEstimate config).extract b).result := by
  simp only [structuralEstimate]
  rw [← hgenerated]
  cases a.generated with
  | none => rfl
  | some generated => cases hfind : Method.find? generated.lines config.anchor <;>
      simp only [hfind] <;> rfl

/-- The standard chain without the tool's extractor. -/
def Chain.toolless (config : Config) : Chain :=
  [Extractor.embeddedBlob config, Extractor.sourceComments config,
    Extractor.structuralEstimate config]

theorem Chain.standard_eq (config : Config) (tool : Tool) :
    standard config tool = Extractor.toolDump config tool :: toolless config := rfl

/-- What is found without the tool depends on the contents and the template alone. -/
theorem Chain.found_toolless_congr (hartifact : a.artifact = b.artifact)
    (hgenerated : a.generated = b.generated) (htemplate : a.template = b.template) :
    (run a (toolless config)).found = (run b (toolless config)).found := by
  simp only [toolless, found_cons, found_nil]
  refine congrArg₂ _ (Extractor.found?_congr rfl ?_) <|
    congrArg₂ _ (Extractor.found?_congr rfl ?_) <|
    congrArg₂ _ (Extractor.found?_congr rfl ?_) rfl
  · exact Extractor.embeddedBlob_congr hartifact htemplate
  · exact Extractor.sourceComments_congr hgenerated htemplate
  · exact Extractor.structuralEstimate_congr hgenerated

/-- The standard chain finds the same from the same contents, template and answer of the tool. -/
theorem Chain.found_standard_congr (hartifact : a.artifact = b.artifact)
    (hgenerated : a.generated = b.generated) (htemplate : a.template = b.template)
    (htool : a.artifact ≠ none →
      (tool a.files a.artifactPath).output = (tool' b.files b.artifactPath).output) :
    (run a (standard config tool)).found = (run b (standard config tool')).found := by
  rw [standard_eq, standard_eq, found_cons, found_cons]
  refine congrArg₂ _ (Extractor.found?_congr rfl ?_) ?_
  · exact Extractor.toolDump_congr hartifact htemplate htool
  · exact found_toolless_congr hartifact hgenerated htemplate

/-- An extractor that runs no tool and leaves all files as they are. -/
def Extractor.Quiet (e : Extractor) : Prop :=
  ∀ source : Source, (e.extract source).toolRuns = 0 ∧ (e.extract source).files = source.files

theorem Extractor.embeddedBlob_quiet (config : Config) : (embeddedBlob config).Quiet := by
  intro source
  simp only [embeddedBlob]
  split <;> exact ⟨rfl, rfl⟩

theorem Extractor.sourceComments_quiet (config : Config) : (sourceComments config).Quiet := by
  intro source
  simp only [sourceComments]
  split
  · exact ⟨rfl, rfl⟩
  · split <;> exact ⟨rfl, rfl⟩

theorem Extractor.structuralEstimate_quiet (config : Config) :
    (structuralEstimate config).Quiet := by
  intro source
  simp only [structuralEstimate]
  split
  · exact ⟨rfl, rfl⟩
  · split <;> exact ⟨rfl, rfl⟩

theorem Chain.quiet_of_mem_toolless {e : Extractor} (h : e ∈ toolless config) : e.Quiet := by
  simp only [toolless, List.mem_cons, List.not_mem_nil, or_false] at h
  rcases h with rfl | rfl | rfl
  · exact Extractor.embeddedBlob_quiet config
  · exact Extractor.sourceComments_quiet config
  · exact Extractor.structuralEstimate_quiet config

/-- The standard chain changes no files but by its tool. -/
theorem Chain.files_standard (config : Config) {tool : Tool}
    (htool : ∀ files path, (tool files path).files = files) (source : Source) :
    (run source (standard config tool)).files = source.files := by
  refine files_run (fun e he source => ?_) source
  rw [standard_eq] at he
  rcases List.mem_cons.mp he with rfl | he
  · simp only [Extractor.toolDump]
    split
    · rfl
    · exact htool source.files source.artifactPath
  · exact (quiet_of_mem_toolless he source).2

end Standard

end TemplateMap
