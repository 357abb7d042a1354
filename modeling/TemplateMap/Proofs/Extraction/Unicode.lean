import TemplateMap.Extraction
import TemplateMap.Proofs.Blob
import TemplateMap.Proofs.Stratum.Bytewise

/-! Blobs of any characters in the bytes of an artifact.  The embedded tier reads a blob with one
character for each byte, so its table has the blob's own records, selected by names and paths that
are read byte by byte.  A template with an ASCII name gets the table of the blob, as long as the
white space that its reader skips in it is ASCII. -/

namespace TemplateMap

/-- The artifact has the blob between other bytes, where a search for the tokens finds it whole. -/
structure Source.Embeds (source : Source) (config : Config) (blob : Text) (before after : Bytes) :
    Prop where
  finish : EndsAtFirst config.blobEnd blob
  start : firstOccurrence? (Utf8.encode config.blobStart) (before ++ Utf8.encode blob) =
    some before.length
  artifact : source.artifact = some (before ++ Utf8.encode blob ++ after)

namespace Extractor

variable {config : Config} {source : Source} {blob : Text} {before after : Bytes}

/-- An embedded blob is read with one character for each of its bytes. -/
theorem embeddedBlob_result (hascii : IsAscii config.blobEnd)
    (h : source.Embeds config blob before after) :
    ((embeddedBlob config).extract source).result =
      .ok (Stratum.parse (Latin1.ofText blob) source.template) := by
  have hend := Utf8.endsAtFirst_encode hascii h.finish
  simp only [embeddedBlob, h.artifact, findBlob_append h.start hend, Except.map, ofBlob, quiet,
    Latin1.ofText]

/-- An embedded blob gives the table of its text read with one character for each byte.  If the
white space that the reader skips in the text is ASCII, that table has the text's own records, and
only the names and paths of the file entries that select them are read byte by byte.  So it is the
table of the text whenever each entry names the template as well as it does byte by byte, as all do
where the template's name is ASCII. -/
theorem embeddedBlob_result_bytewise (config : Config) (source : Source) (blob : Text)
    (before after : Bytes) (hascii : IsAscii config.blobEnd)
    (h : source.Embeds config blob before after) :
    let result := ((embeddedBlob config).extract source).result
    let scan := Stratum.scan blob
    result = .ok (Stratum.parse (Latin1.ofText blob) source.template) ∧
    (Stratum.SkipsAscii blob →
      result = .ok (scan.records.filter fun r => Stratum.keeps (Stratum.retainedIds
        (scan.files.map Stratum.FileEntry.bytewise) source.template) r.file) ∧
      ((∀ e ∈ scan.files, e.bytewise.matchOf source.template = e.matchOf source.template) →
        result = .ok (Stratum.parse blob source.template)) ∧
      (IsAscii source.template.name → result = .ok (Stratum.parse blob source.template))) := by
  intro result scan
  have hresult : result = .ok (Stratum.parse (Latin1.ofText blob) source.template) :=
    embeddedBlob_result hascii h
  refine ⟨hresult, fun hskips => ?_⟩
  have hsame : (∀ e ∈ scan.files, e.bytewise.matchOf source.template =
      e.matchOf source.template) → result = .ok (Stratum.parse blob source.template) :=
    fun hmatch => by rw [hresult, Stratum.parse_ofText_of_matchOf hskips hmatch]
  refine ⟨by rw [hresult, Stratum.parse_ofText hskips], hsame, fun htemplate => hsame ?_⟩
  intro e he
  exact Stratum.FileEntry.matchOf_bytewise htemplate
    ((Stratum.scan_ofText hskips).trimmed e he)

/-- Files whose names and paths are not ASCII, and one whose name is. -/
def accentedBlob : Text := "SMAP\n*F\n+ 0 é.jsp\nsrc/à.jsp\n1 a.jsp\n*L\n1#0:10\n2#1:20\n*E".toList

/-- A class file with a blob between other bytes. -/
def embedding (blob : Text) (template : Text) : Source where
  artifactPath := "a.class".toList
  artifact := some ([0xca] ++ Utf8.encode blob ++ [0x00])
  generated := none
  template := ⟨template⟩
  files := .empty

theorem embeddedBlob_accentedBlob :
    IsAscii Config.standard.blobEnd ∧
    (embedding accentedBlob "a.jsp".toList).Embeds .standard accentedBlob [0xca] [0x00] ∧
    Stratum.SkipsAscii accentedBlob ∧
    ((embeddedBlob .standard).extract (embedding accentedBlob "a.jsp".toList)).result =
      .ok [Segment.of 2 1 20 1 (some ['1'])] := by
  have hascii : IsAscii Config.standard.blobEnd := by decide +kernel
  have hembeds : (embedding accentedBlob "a.jsp".toList).Embeds .standard accentedBlob
      [0xca] [0x00] := ⟨⟨53, by decide +kernel, by decide +kernel⟩, by decide +kernel, rfl⟩
  have hskips : Stratum.SkipsAscii accentedBlob :=
    Stratum.skipsAscii_of_blankAscii (by decide +kernel)
  obtain ⟨-, hrest⟩ := embeddedBlob_result_bytewise .standard _ _ _ _ hascii hembeds
  refine ⟨hascii, hembeds, hskips, ((hrest hskips).2.2 (by decide +kernel)).trans ?_⟩
  decide +kernel

/-- The table of an embedded blob is not always that of its text: not where the template's name is
not ASCII, not where white space at the end of a line is not, and not where white space before the
name of an entry is not. -/
theorem not_forall_embeddedBlob_parse :
    (¬ ∀ (source : Source) (blob : Text) (before after : Bytes),
      source.Embeds .standard blob before after → Stratum.SkipsAscii blob →
      ((embeddedBlob .standard).extract source).result =
        .ok (Stratum.parse blob source.template)) ∧
    (¬ ∀ (source : Source) (blob : Text) (before after : Bytes),
      source.Embeds .standard blob before after → IsAscii source.template.name →
      ((embeddedBlob .standard).extract source).result =
        .ok (Stratum.parse blob source.template)) ∧
    ¬ ∀ (source : Source) (blob : Text) (before after : Bytes),
      source.Embeds .standard blob before after → IsAscii source.template.name →
      (∀ line ∈ blob.lines, Text.TrimsAscii line) →
      ((embeddedBlob .standard).extract source).result =
        .ok (Stratum.parse blob source.template) := by
  refine ⟨fun h => ?_, fun h => ?_, fun h => ?_⟩
  · let blob := "SMAP\n*F\n0 é.jsp\n1 b.jsp\n*L\n1#0:10\n2#1:20\n*E".toList
    have hresult := h (embedding blob "é.jsp".toList) blob [0xca] [0x00]
      ⟨⟨41, by decide +kernel, by decide +kernel⟩, by decide +kernel, rfl⟩
      (Stratum.skipsAscii_of_blankAscii (by decide +kernel))
    revert hresult
    decide +kernel
  · let blob := "SMAP\n*L\n1:2\u00a0\n*E".toList
    have hresult := h (embedding blob "a.jsp".toList) blob [0xca] [0x00]
      ⟨⟨13, by decide +kernel, by decide +kernel⟩, by decide +kernel, rfl⟩ (by decide +kernel)
    revert hresult
    decide +kernel
  · let blob := "SMAP\n*F\n0 \u00a0a.jsp\n1 a.jsp\n*L\n1#0:10\n2#1:20\n*E".toList
    have hresult := h (embedding blob "a.jsp".toList) blob [0xca] [0x00]
      ⟨⟨42, by decide +kernel, by decide +kernel⟩, by decide +kernel, rfl⟩ (by decide +kernel)
      (by decide +kernel)
    revert hresult
    decide +kernel

end Extractor

end TemplateMap
