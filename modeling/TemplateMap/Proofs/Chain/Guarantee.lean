import TemplateMap.Proofs.Chain
import TemplateMap.Proofs.Table.Total

/-! What can be relied on: with a generated source the standard chain always finds a table, whatever
the configuration, the tool and the text of the source are; and every table that a chain finds
answers every line in both directions. -/

namespace TemplateMap

namespace Method

theorem spread_ne_nil (divisor : Nat) (span : MethodSpan) : spread divisor span ≠ [] := by
  simp [spread]

theorem afterBoilerplate_ne_nil (config : Config) (total : Nat) :
    afterBoilerplate config total ≠ [] :=
  List.cons_ne_nil _ _

end Method

variable {config : Config} {tool : Tool} {source : Source}

theorem Extractor.found?_of_error (e : Extractor) {error : TierError}
    (h : (e.extract source).result = .error error) : e.found? source = none := by
  rw [found?, h]

theorem Extractor.sourceComments_found?_of_none (h : source.generated = none) :
    (sourceComments config).found? source = none := by
  have herror : ((sourceComments config).extract source).result = .error .sourceUnreadable := by
    simp [sourceComments, h, quiet]
  exact found?_of_error _ herror

/-- A generated source is all that the estimate needs. -/
theorem Extractor.structuralEstimate_found?_eq_none_iff :
    (structuralEstimate config).found? source = none ↔ source.generated = none := by
  cases h : source.generated with
  | none =>
    have herror : ((structuralEstimate config).extract source).result
        = .error .sourceUnreadable := by
      simp [structuralEstimate, h, quiet]
    exact iff_of_true (found?_of_error _ herror) rfl
  | some generated =>
    obtain ⟨table, hresult, hne⟩ :
        ∃ table, ((structuralEstimate config).extract source).result = .ok table ∧ table ≠ [] := by
      cases hspan : Method.find? generated.lines config.anchor with
      | some span =>
        refine ⟨Method.spread config.divisor span, ?_, Method.spread_ne_nil config.divisor span⟩
        simp [structuralEstimate, h, hspan, quiet]
      | none =>
        refine ⟨Method.afterBoilerplate config generated.lines.length, ?_,
          Method.afterBoilerplate_ne_nil config _⟩
        simp [structuralEstimate, h, hspan, quiet]
    have hfound : (structuralEstimate config).found? source = some ⟨.structuralEstimate, table⟩ :=
      found?_eq_some_iff.mpr ⟨rfl, hresult, hne⟩
    simp [hfound]

/-- Without the tool, no table is found exactly if there is no generated source and none in the
artifact. -/
theorem Chain.found_toolless_eq_none_iff :
    (run source (toolless config)).found = none ↔
      source.generated = none ∧ (Extractor.embeddedBlob config).found? source = none := by
  simp only [toolless, found_cons, found_nil, Option.or_eq_none_iff, and_true]
  constructor
  · rintro ⟨hembedded, -, hestimate⟩
    have hgenerated := Extractor.structuralEstimate_found?_eq_none_iff.mp hestimate
    exact ⟨hgenerated, hembedded⟩
  · rintro ⟨hgenerated, hembedded⟩
    exact ⟨hembedded, Extractor.sourceComments_found?_of_none hgenerated,
      Extractor.structuralEstimate_found?_eq_none_iff.mpr hgenerated⟩

/-- The standard chain finds no table exactly if there is no generated source and neither of the
extractors that read the artifact has one.  A table that it finds answers every line in both
directions, with a line between the first and the last and the table's tier. -/
theorem Chain.standard_guarantee (config : Config) (tool : Tool) (source : Source) :
    ((run source (standard config tool)).found = none ↔
      source.generated = none ∧ (Extractor.toolDump config tool).found? source = none ∧
        (Extractor.embeddedBlob config).found? source = none) ∧
    ∀ t, (run source (standard config tool)).found = some t → ∀ line : Int,
      (∃ a, t.forward line = .ok a ∧ 1 ≤ a.line ∧ a.line ≤ lastLine ∧ a.tier = t.tier) ∧
      ∃ a, t.reverse line = .ok a ∧ 1 ≤ a.line ∧ a.line ≤ lastLine ∧ a.tier = t.tier := by
  constructor
  · -- What the tool leaves behind of the files is nothing that the later extractors read.
    have hrest : (run { source with
        files := ((Extractor.toolDump config tool).extract source).files } (toolless config)).found
        = (run source (toolless config)).found := found_toolless_congr rfl rfl rfl
    rw [standard_eq, found_cons, hrest, Option.or_eq_none_iff, found_toolless_eq_none_iff]
    exact and_left_comm
  · intro t ht line
    have hne : t.table ≠ [] := table_ne_nil_of_found ht
    exact ⟨TierTable.forward_of_ne_nil hne line, TierTable.reverse_of_ne_nil hne line⟩

/-- No artifact beside an empty source. -/
def emptySource : Source where
  artifactPath := "a.class".toList
  artifact := none
  generated := some []
  template := ⟨"a.jsp".toList⟩
  files := .empty

theorem emptySource_guarantee :
    let t : TierTable := ⟨.structuralEstimate, [Segment.single 1 1]⟩
    (Chain.run emptySource
        (Chain.standard .standard (.always (.error .noCommand)))).found = some t ∧
      ∃ a, t.forward (-5) = .ok a ∧ 1 ≤ a.line ∧ a.line ≤ lastLine ∧ a.tier = t.tier := by
  intro t
  have hfound : (Chain.run emptySource
      (Chain.standard .standard (.always (.error .noCommand)))).found = some t := by decide +kernel
  have hanswers := (Chain.standard_guarantee .standard _ emptySource).2 t hfound (-5)
  exact ⟨hfound, hanswers.1⟩

end TemplateMap
