import TemplateMap.Extraction
import TemplateMap.Proofs.Blob
import TemplateMap.Proofs.Dump
import TemplateMap.Proofs.Stratum.Lines

/-! One blob, two readings: a tool that shows the blob of an artifact indented below its header, and
the search for the blob among the bytes of the artifact, give the same table. -/

namespace TemplateMap

variable {config : Config} {blob : Text}

theorem IsMargin.update {margin : Nat → Text} (h : ∀ n, IsMargin (margin n)) (n : Nat) :
    IsMargin (Function.update margin 0 [] n) := by
  cases n with
  | zero => simp [IsMargin]
  | succ n => simpa using h (n + 1)

theorem IsMargin.ascii {margin : Text} (h : IsMargin margin) : IsAscii margin := by
  intro c hc
  rcases h c hc with rfl | rfl <;> decide

/-- A blob stays one when all its lines but the first are indented. -/
theorem IsBlob.indented {start finish : Text} {margin : Nat → Text}
    (h : IsBlob start finish blob) (hstart : IsToken start) (hfinish : IsToken finish)
    (hmargin : ∀ n, IsMargin (margin n)) :
    IsBlob start finish (Text.indented (Function.update margin 0 []) blob) where
  ascii c hc := by
    rcases Text.mem_indented hc with hc | ⟨n, hc⟩
    · exact h.ascii c hc
    · exact (IsMargin.update hmargin n).ascii c hc
  start := hstart.prefix_indented h.start
  finish := hfinish.endsAtFirst_indented (IsMargin.update hmargin) h.finish

/-- In an indented text a blob is found after the first margin. -/
theorem IsBlob.findBlob_indented {start finish : Text} {margin : Nat → Text}
    (h : IsBlob start finish blob) (hstart : IsToken start) (hfinish : IsToken finish)
    (hmargin : ∀ n, IsMargin (margin n)) (tail : Text) :
    findBlob (Utf8.encode (Text.indented margin blob ++ tail)) start finish =
      .ok (Utf8.encode (Text.indented (Function.update margin 0 []) blob)) := by
  have hshifted := h.indented hstart hfinish hmargin
  have hnonempty : blob ≠ [] := by
    rintro rfl
    exact hstart.nonempty (List.prefix_nil.mp h.start)
  -- The first margin stands before the blob; the other ones are inside it.
  rw [Text.indented_eq_append margin hnonempty]
  refine hshifted.findBlob_encode (hmargin 0).ascii ?_ tail
  rw [firstOccurrence?_append_left hstart.nonempty ((hmargin 0).notMem_token hstart),
    firstOccurrence?_eq_zero hshifted.start]
  simp

namespace Extractor

/-- The tool tier and the embedded tier read the same blob as the same table: that of the blob as a
text of its own. -/
theorem toolDump_embeddedBlob_result (config : Config) (tool : Tool) (source source' : Source)
    (blob : Text) (layout : Dump.Layout config.sectionHeader) (before after : Bytes)
    (hstart : IsToken config.blobStart) (hfinish : IsToken config.blobEnd)
    (hblob : IsBlob config.blobStart config.blobEnd blob)
    (hheader : '\n' ∉ config.sectionHeader)
    (htrim : config.sectionHeader.trim = config.sectionHeader)
    (hreadable : source.artifact ≠ none)
    (houtput : (tool source.files source.artifactPath).output = .ok (layout.shown blob))
    (hbefore : firstOccurrence? (Utf8.encode config.blobStart) (before ++ Utf8.encode blob) =
      some before.length)
    (hartifact : source'.artifact = some (before ++ Utf8.encode blob ++ after))
    (htemplate : source'.template = source.template) :
    ((toolDump config tool).extract source).result = .ok (Stratum.parse blob source.template) ∧
    ((embeddedBlob config).extract source').result =
      .ok (Stratum.parse blob source.template) := by
  constructor
  · obtain ⟨bytes, hbytes⟩ := Option.ne_none_iff_exists'.mp hreadable
    obtain ⟨tail, -, hsection⟩ := layout.section?_shown hheader htrim blob
    have hdump : blobInDump config (layout.shown blob) =
        .ok (Text.indented (Function.update layout.margin 0 []) blob) := by
      have hshifted := hblob.indented hstart hfinish layout.margin_blank
      simp only [blobInDump, hsection]
      rw [hblob.findBlob_indented hstart hfinish layout.margin_blank, Except.map,
        Utf8.decodeLossy_encode hshifted.ascii]
    have hparse := Stratum.parse_congr (Stratum.significantLines_indented
      (IsMargin.update layout.margin_blank) blob) source.template
    simp only [toolDump, hbytes, houtput, hdump, ofBlob, hparse]
  · have hend := Utf8.endsAtFirst_encode hblob.ascii_finish hblob.finish
    simp only [embeddedBlob, hartifact, findBlob_append hbefore hend, Except.map, ofBlob, quiet,
      Latin1.decode_encode hblob.ascii, htemplate]

/-- A small blob. -/
def smallBlob : Text := "SMAP\n*L\n1:7\n*E".toList

/-- A class below whose header a blob is shown. -/
def smallLayout : Dump.Layout Config.standard.sectionHeader where
  above := ["class a_jsp".toList]
  margin _ := [' ', '\t']
  below := ['\n', '}']
  above_lines := by decide +kernel
  margin_blank _ := by simp [IsMargin]
  margin_nonempty _ := List.cons_ne_nil _ _
  below_flush := .inr ⟨['}'], rfl, by simp [isBlank]⟩

/-- The class file with the blob among other bytes. -/
def smallSource : Source where
  artifactPath := "a.class".toList
  artifact := some (0xca :: Utf8.encode smallBlob ++ [0x00])
  generated := none
  template := ⟨"a.jsp".toList⟩
  files := .empty

theorem smallBlob_isBlob : IsBlob Config.standard.blobStart Config.standard.blobEnd smallBlob where
  ascii := by decide +kernel
  start := by decide +kernel
  finish := ⟨12, by decide +kernel, by decide +kernel⟩

theorem smallBlob_read :
    let tool := Tool.always (.ok (smallLayout.shown smallBlob))
    ((toolDump .standard tool).extract smallSource).result = .ok [Segment.of 1 1 7 1 none] ∧
    ((embeddedBlob .standard).extract smallSource).result = .ok [Segment.of 1 1 7 1 none] := by
  intro tool
  have hparse : Stratum.parse smallBlob smallSource.template = [Segment.of 1 1 7 1 none] := by
    decide +kernel
  rw [← hparse]
  have hstart : IsToken Config.standard.blobStart := by decide +kernel
  have hfinish : IsToken Config.standard.blobEnd := by decide +kernel
  exact toolDump_embeddedBlob_result .standard tool smallSource smallSource smallBlob smallLayout
    [0xca] [0x00] hstart hfinish smallBlob_isBlob (by decide +kernel) (by decide +kernel) nofun rfl
    (by decide +kernel) rfl rfl

end Extractor

end TemplateMap
