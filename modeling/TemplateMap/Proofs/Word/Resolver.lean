import TemplateMap.Proofs.Resolver.Transparency
import TemplateMap.Proofs.Template
import TemplateMap.Proofs.Word.Extraction
import TemplateMap.Proofs.Word.Table

/-! The resolver on machine words.  Its one operation that may stop the program is the derivation of
an artifact's generated source, by an extension that holds a path separator; validity leaves such an
extension in. -/

namespace TemplateMap

/-- The files of an artifact, and what the tool gives for it, are below 2^32 bytes. -/
structure Artifact.Fits (artifact : Artifact) (files : FileSystem) (tool : Tool) : Prop where
  compiled : ∀ bytes, files.content? artifact.compiled = some bytes →
    bytes.length ≤ Config.maxHalfWord
  generated : ∀ bytes, files.content? artifact.generated = some bytes →
    bytes.length ≤ Config.maxHalfWord
  output : ∀ t, (tool files artifact.compiled).output = .ok t → Utf8.size t ≤ Config.maxHalfWord

namespace Word

variable {files : FileSystem} {artifact : Artifact} {tool : Tool}

theorem source_fits (h : artifact.Fits files tool) (template : Template) :
    (Resolver.source files artifact template).1.Fits tool where
  artifact bytes hbytes := by
    rw [Resolver.source_artifact] at hbytes
    exact h.compiled bytes hbytes
  generated t ht := by
    rw [Resolver.source_generated, Option.map_eq_some_iff] at ht
    obtain ⟨bytes, hbytes, rfl⟩ := ht
    exact Nat.le_trans (Utf8.length_decodeLossy_le bytes) (h.generated bytes hbytes)
  output := h.output

/-- The artifact at a path, with its source beside it. -/
def artifactAt (config : Config) (compiled : Path) : Checked Artifact :=
  (Artifact.ofCompiled compiled config.sourceExtension).mapError .extension

/-- An artifact cannot be had with an extension that holds a separator, and with no other one is it
refused. -/
theorem exists_artifactAt_iff (config : Config) (compiled : Path) :
    (∃ made, artifactAt config compiled = .ok made) ↔ '/' ∉ config.sourceExtension := by
  unfold artifactAt
  by_cases h : '/' ∈ config.sourceExtension
  · rw [Artifact.ofCompiled_of_mem h]
    exact iff_of_false (fun ⟨_, hmade⟩ => nomatch hmade) (not_not_intro h)
  · obtain ⟨made, hmade, -⟩ := Artifact.exists_ofCompiled_of_notMem h compiled
    rw [hmade]
    exact iff_of_true ⟨made, rfl⟩ h

/-- Makes a table anew and keeps it, if there is one. -/
def rebuild (r : Resolver) (files : FileSystem) (artifact : Artifact) (template : Template)
    (tool : Tool) : Checked Build := do
  let (source, readLog) := Resolver.source files artifact template
  let run ← run source (standard r.config tool)
  match run.found with
  | none =>
    return ⟨.error (.notFound artifact.compiled), r, readLog ++ run.log, run.toolRuns, run.files⟩
  | some table =>
    let handle : Handle := ⟨r.made, table⟩
    let entry : CacheEntry :=
      ⟨Resolver.key artifact template, Resolver.changed? files artifact, handle⟩
    return ⟨.ok handle, { r.put entry with made := r.made + 1 }, readLog ++ run.log, run.toolRuns,
      run.files⟩

theorem rebuild_eq (r : Resolver) (h : artifact.Fits files tool) (template : Template) :
    rebuild r files artifact template tool = .ok (r.rebuild files artifact template tool) := by
  have hfits := source_fits h template
  rw [rebuild, Resolver.rebuild]
  simp only [run_standard_eq hfits, Loop.ok_bind]
  cases (Chain.run (Resolver.source files artifact template).1
    (Chain.standard r.config tool)).found <;> rfl

/-- The table of an artifact for a template: the one that is kept, or else a new one. -/
def build (r : Resolver) (files : FileSystem) (artifact : Artifact) (template : Template)
    (tool : Tool) : Checked Build :=
  match r.entry? (Resolver.key artifact template) with
  | none => rebuild r files artifact template tool
  | some entry =>
    if entry.changed = Resolver.changed? files artifact then
      return ⟨.ok entry.handle, r, [.cacheHit artifact.compiled template.name], 0, files⟩
    else do
      let build ← rebuild r files artifact template tool
      return { build with log := .artifactChanged artifact.compiled :: build.log }

theorem build_eq (r : Resolver) (h : artifact.Fits files tool) (template : Template) :
    build r files artifact template tool = .ok (r.build files artifact template tool) := by
  rw [build, Resolver.build]
  cases r.entry? (Resolver.key artifact template) with
  | none => exact rebuild_eq r h template
  | some entry =>
    simp only [rebuild_eq r h template]
    split <;> rfl

/-- A resolver stops the program exactly where it derives an artifact's source by an extension that
holds a separator.  On files and output of a tool below 2^32 bytes it makes the same table, or none,
as with unbounded numbers, whatever it keeps and whatever its configuration is, and every table
gives the same answers. -/
theorem resolver_finishes (r : Resolver) (files : FileSystem) (compiled : Path)
    (artifact : Artifact) (template : Template) (tool : Tool) (h : artifact.Fits files tool) :
    ((∃ made, artifactAt r.config compiled = .ok made) ↔ '/' ∉ r.config.sourceExtension) ∧
    build r files artifact template tool = .ok (r.build files artifact template tool) ∧
    ∀ (t : TierTable) (line : Int),
      forward t line = .ok (t.forward line) ∧ reverse t line = .ok (t.reverse line) :=
  ⟨exists_artifactAt_iff r.config compiled, build_eq r h template,
    fun t line => ⟨forward_eq t line, reverse_eq t line⟩⟩

/-- A compiled file's source, without the compiled file. -/
def smallFiles : FileSystem :=
  FileSystem.empty.write "a.java".toList (Utf8.encode "void _jspService() \x7b\n\x7d\n".toList)
    (.moment 0)

theorem smallFiles_finishes :
    let artifact : Artifact := ⟨"a.class".toList, "a.java".toList⟩
    let tool := Tool.always (.error .noCommand)
    artifact.Fits smallFiles tool ∧
      (∃ b, build (.new .standard) smallFiles artifact ⟨"a.jsp".toList⟩ tool = .ok b ∧
        b.outcome.isOk = true) := by
  intro artifact tool
  have hfits : artifact.Fits smallFiles tool := by
    have hcompiled : smallFiles.content? artifact.compiled = none := by decide +kernel
    have hgenerated : smallFiles.content? artifact.generated =
        some (Utf8.encode "void _jspService() \x7b\n\x7d\n".toList) := by decide +kernel
    refine ⟨fun bytes hbytes => ?_, fun bytes hbytes => ?_, nofun⟩
    · rw [hcompiled] at hbytes
      cases hbytes
    · rw [hgenerated] at hbytes
      obtain rfl := Option.some.inj hbytes
      decide
  have hbuild := (resolver_finishes (.new .standard) smallFiles "a.class".toList artifact
    ⟨"a.jsp".toList⟩ tool hfits).2.1
  exact ⟨hfits, _, hbuild, by decide +kernel⟩

/-- Validity does not keep a resolver from stopping the program. -/
theorem not_forall_exists_artifactAt : ¬ ∀ (config : Config) (compiled : Path),
    config.invalid? = none → ∃ made, artifactAt config compiled = .ok made := by
  intro h
  let config : Config := { Config.standard with sourceExtension := "a/b".toList }
  have hvalid : config.invalid? = none := by decide +kernel
  obtain ⟨made, hmade⟩ := h config "a.class".toList hvalid
  have hseparator : '/' ∈ config.sourceExtension := by decide
  exact (exists_artifactAt_iff config "a.class".toList).mp ⟨made, hmade⟩ hseparator

end Word

end TemplateMap
