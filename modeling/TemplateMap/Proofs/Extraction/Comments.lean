import TemplateMap.Extraction
import TemplateMap.Proofs.LineMap.Filling

/-! The table of the line comments: the annotations of a source form an ordered map, and so does the
map with its gaps filled.  Its table answers an annotated template line with the generated line of
the annotation.  It answers that generated line with the template line only as long as no earlier
line of the filled map has it: the lines that fill a gap may take over the annotation after it. -/

namespace TemplateMap

namespace Text

theorem le_of_number? {bound n : Nat} {t : Text} (h : number? bound t = some n) : n ≤ bound := by
  unfold number? at h
  split at h
  · cases h
  · split at h
    next hle => exact Option.some.inj h ▸ hle
    next => cases h

end Text

namespace Annotation

theorem ofLine?_le {template : Template} {line : Text} {t : Nat}
    (h : ofLine? template line = some t) : t ≤ lastLine := by
  unfold ofLine? at h
  split at h
  · split at h
    · cases h
    · exact Text.le_of_number? h
  · split at h
    · obtain ⟨digits, -, hdigits⟩ := Option.bind_eq_some_iff.mp h
      exact Text.le_of_number? hdigits
    · cases h

end Annotation

namespace Extractor

variable {config : Config} {source : Source} {template : Template} {generated : Text}

/-- The annotations are an ordered map, and none of them is on the first generated line. -/
theorem annotations_ordered (template : Template) (generated : Text) :
    (annotations template generated).Ordered ∧ ∀ p ∈ annotations template generated, 2 ≤ p.2 := by
  unfold annotations
  refine List.foldlRecOn (motive := fun m : LineMap => m.Ordered ∧ ∀ p ∈ m, 2 ≤ p.2) _ _
    ⟨LineMap.ordered_nil, nofun⟩ fun m hm line hline => ?_
  obtain ⟨line, index⟩ := line
  simp only
  split
  next t ht =>
    have hle : t ≤ lastLine := Annotation.ofLine?_le ht
    have hg : min (index + 2) lastLine ≤ lastLine := Nat.min_le_right ..
    refine ⟨hm.1.setNew hle hg, fun p hp => ?_⟩
    rcases LineMap.mem_setNew hp with rfl | hp
    · exact Nat.le_min.mpr ⟨by omega, by decide⟩
    · exact hm.2 p hp
  next => exact hm

/-- A source with an annotation has a table: that of the filled map. -/
theorem sourceComments_result (hgenerated : source.generated = some generated)
    (hnonempty : annotations source.template generated ≠ []) :
    ((sourceComments config).extract source).result =
      .ok ((annotations source.template generated).densify config.maxGap).toSegments := by
  simp [sourceComments, hgenerated, hnonempty, quiet]

/-- An annotated template line goes to the generated line of its annotation.  That line goes back to
it exactly if no earlier line of the filled map has the same generated line: where the annotations
ascend on both sides, exactly if the gap before it is not filled or has less than two template lines
for each generated one. -/
theorem sourceComments_queries (config : Config) (source : Source) (generated : Text) (t g : Nat)
    (hgenerated : source.generated = some generated)
    (hmem : (t, g) ∈ annotations source.template generated) (hpos : 1 ≤ t) :
    ∃ table, ((sourceComments config).extract source).result = .ok table ∧
      table.forward? t = some ⟨g, .exact⟩ ∧
      (table.reverse? g = some ⟨t, .exact⟩ ↔
        ∀ p ∈ (annotations source.template generated).densify config.maxGap,
          p.2 = g → t ≤ max 1 p.1) ∧
      ((annotations source.template generated).Pairwise (fun a b => a.2 < b.2) →
        config.maxGap ≤ 2 ^ 16 →
        (table.reverse? g = some ⟨t, .exact⟩ ↔
          ¬ (annotations source.template generated).Overtaken config.maxGap (t, g))) := by
  obtain ⟨hordered, hlow⟩ := annotations_ordered source.template generated
  have hfilled : ((annotations source.template generated).densify config.maxGap).Ordered :=
    hordered.densify
  have hmem' : (t, g) ∈ (annotations source.template generated).densify config.maxGap :=
    LineMap.mem_densify_of_mem hmem
  have hreverse := hfilled.reverse?_eq_iff hmem' hpos
  refine ⟨_, sourceComments_result hgenerated (List.ne_nil_of_mem hmem),
    hfilled.forward?_toSegments hmem' (Nat.le_of_succ_le (hlow _ hmem)), hreverse, ?_⟩
  intro hascending hmax
  exact hreverse.trans (hordered.first_iff hascending hmax hmem)

/-- A source in the files of template `a.jsp`. -/
def commentedSource (generated : Text) : Source where
  artifactPath := "a.class".toList
  artifact := none
  generated := some generated
  template := ⟨"a.jsp".toList⟩
  files := .empty

/-- Two lines of the template, each of which makes two lines of code. -/
def longCode : Text := "//line 1 \"a.jsp\"\n\n\n\n//line 3 \"a.jsp\"\n".toList

/-- Five lines of the template, of which the middle ones make no code. -/
def shortCode : Text := "//line 1 \"a.jsp\"\n//line 5 \"a.jsp\"\n".toList

theorem longCode_queries :
    (3, 6) ∈ annotations ⟨"a.jsp".toList⟩ longCode ∧
    ∃ table, ((sourceComments .standard).extract (commentedSource longCode)).result = .ok table ∧
      table.forward? (3 : Nat) = some ⟨6, .exact⟩ ∧
      table.reverse? (6 : Nat) = some ⟨3, .exact⟩ := by
  have hmem : (3, 6) ∈ annotations ⟨"a.jsp".toList⟩ longCode := by decide +kernel
  obtain ⟨table, hresult, hforward, hreverse, -⟩ := sourceComments_queries .standard
    (commentedSource longCode) longCode 3 6 rfl hmem (by decide)
  exact ⟨hmem, table, hresult, hforward, hreverse.mpr (by decide +kernel)⟩

/-- Where the template has more lines than the code, a line between two annotations has the
generated line of the second one, and takes it over. -/
theorem not_forall_sourceComments_queries :
    ¬ ∀ (config : Config) (source : Source) (generated : Text) (t g : Nat),
      source.generated = some generated → (t, g) ∈ annotations source.template generated →
      1 ≤ t →
      ∃ table, ((sourceComments config).extract source).result = .ok table ∧
        table.forward? t = some ⟨g, .exact⟩ ∧ table.reverse? g = some ⟨t, .exact⟩ := by
  intro h
  have hmem : (5, 3) ∈ annotations ⟨"a.jsp".toList⟩ shortCode := by decide +kernel
  obtain ⟨table, hresult, -, hback⟩ :=
    h .standard (commentedSource shortCode) shortCode 5 3 rfl hmem (by decide)
  have hextract : ((sourceComments .standard).extract (commentedSource shortCode)).result =
      .ok ((annotations ⟨"a.jsp".toList⟩ shortCode).densify 20).toSegments :=
    sourceComments_result rfl (List.ne_nil_of_mem hmem)
  obtain rfl := Except.ok.inj (hextract.symm.trans hresult)
  have hfilled : (3, 3) ∈ (annotations ⟨"a.jsp".toList⟩ shortCode).densify 20 := by decide +kernel
  obtain ⟨first, -, -, hleast, hreverse⟩ :=
    (annotations_ordered _ shortCode).1.densify.reverse?_toSegments hfilled
  have hle : first.1 ≤ 3 := hleast _ hfilled rfl
  have hsame : max 1 first.1 = 5 := by
    have heq := hreverse.symm.trans hback
    simpa using heq
  omega

end Extractor

end TemplateMap
