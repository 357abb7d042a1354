import TemplateMap.Proofs.Stratum.Entry
import TemplateMap.Proofs.Stratum.Lines
import TemplateMap.Proofs.Stratum.Reading

/-! Stratum text byte by byte.  The scanner finds in the bytes of a text, one character for each,
the records of the text and its file entries, whose names and paths it reads byte by byte.  This
needs that the white space which it skips in the text is ASCII, for in the bytes it skips no
other. -/

namespace TemplateMap.Stratum

variable {line text : Text}

/-! ### Lines -/

section Line

variable (h : IsTrimmed line)

include h

theorem isFileMarker_bytewise : isFileMarker line.bytewise = isFileMarker line :=
  decide_eq_decide.mpr (Text.bytewise_eq_iff h (by decide))

theorem isLineMarker_bytewise : isLineMarker line.bytewise = isLineMarker line :=
  decide_eq_decide.mpr (Text.bytewise_eq_iff h (by decide))

theorem isPrefixOf_bytewise {part : Text} (hpart : IsAscii part) :
    part.isPrefixOf line.bytewise = part.isPrefixOf line := by
  rw [Bool.eq_iff_iff, List.isPrefixOf_iff_prefix, List.isPrefixOf_iff_prefix,
    Text.prefix_bytewise_iff h hpart]

theorem isMarker_bytewise : isMarker line.bytewise = isMarker line :=
  isPrefixOf_bytewise h (by decide)

theorem isEndMarker_bytewise : isEndMarker line.bytewise = isEndMarker line :=
  isPrefixOf_bytewise h (by decide)

theorem record?_bytewise : record? line.bytewise = record? line := by
  by_cases hascii : IsAscii line
  · rw [Text.bytewise_of_ascii h hascii]
  · have hnone : ∀ {t : Text}, ¬ IsAscii t → record? t = none := fun ht =>
      Option.eq_none_iff_forall_ne_some.mpr fun _ hrecord => ht (ascii_of_record? hrecord)
    rw [hnone hascii, hnone (mt (Text.ascii_of_bytewise h) hascii)]

end Line

/-! ### What the scanner skips -/

namespace Scan

/-- If the scanner reads the line as a file entry, all that stands before the name is ASCII. -/
def SkipsAscii (s : Scan) (line : Text) : Prop :=
  s.part = .files → s.awaitingPath = false → FileEntry.SkipsAscii line

/-- The same of all lines after which the scanner goes on. -/
def SkipsAsciiIn (s : Scan) : (lines : List Text) → Prop
  | [] => True
  | line :: rest => s.SkipsAscii line ∧ (s.step line).SkipsAsciiIn rest

end Scan

/-- All white space that the scanner skips in a text is ASCII, at the ends of lines as well as
before the names of file entries. -/
structure SkipsAscii (text : Text) : Prop where
  ends : ∀ line ∈ text.lines, Text.TrimsAscii line
  entries : (Scan.start ((significantLines text).any isLineMarker)).SkipsAsciiIn
    (linesBeforeEnd text)

theorem isTrimmed_of_mem_significantLines (h : line ∈ significantLines text) : IsTrimmed line := by
  obtain ⟨raw, -, rfl⟩ := List.mem_map.mp (List.mem_of_mem_filter h)
  exact Text.isTrimmed_trim raw

theorem isTrimmed_of_mem_linesBeforeEnd (h : line ∈ linesBeforeEnd text) : IsTrimmed line :=
  isTrimmed_of_mem_significantLines (List.takeWhile_subset _ h)

theorem Scan.skipsAsciiIn_of_forall {lines : List Text}
    (h : ∀ line ∈ lines, FileEntry.SkipsAscii line) (s : Scan) : s.SkipsAsciiIn lines := by
  induction lines generalizing s with
  | nil => trivial
  | cons line rest ih =>
    obtain ⟨hline, hrest⟩ := List.forall_mem_cons.mp h
    exact ⟨fun _ _ => hline, ih hrest _⟩

/-- A text skips only ASCII if all of its white space is ASCII. -/
theorem skipsAscii_of_blankAscii (h : text.BlankAscii) : SkipsAscii text where
  ends line hline :=
    Text.BlankAscii.trimsAscii fun c hc => h c (Text.mem_of_mem_lines hline hc)
  entries := by
    refine Scan.skipsAsciiIn_of_forall (fun line hline => ?_) _
    have htrimmed := isTrimmed_of_mem_linesBeforeEnd hline
    refine FileEntry.skipsAscii_of_blankAscii htrimmed fun c hc => h c ?_
    obtain ⟨raw, hraw, rfl⟩ :=
      List.mem_map.mp (List.mem_of_mem_filter (List.takeWhile_subset _ hline))
    refine Text.mem_of_mem_lines hraw ?_
    rw [← raw.takeWhile_append_trim_append]
    exact List.mem_append_left _ (List.mem_append_right _ hc)

/-! ### The scan -/

theorem significantLines_ofText (h : ∀ line ∈ text.lines, Text.TrimsAscii line) :
    significantLines (Latin1.ofText text) = (significantLines text).map Text.bytewise := by
  rw [significantLines_eq, Text.trim_pieces_ofText h, List.filter_map, significantLines]
  refine congrArg (List.map Text.bytewise) (List.filter_congr fun line hline => ?_)
  obtain ⟨raw, -, rfl⟩ := List.mem_map.mp hline
  rw [Function.comp_apply, Bool.eq_iff_iff]
  simp [Text.bytewise_eq_nil_iff (Text.isTrimmed_trim raw)]

namespace Scan

/-- The scan of bytes beside the scan of the text: it differs only in the names and paths of the
entries, which it reads byte by byte. -/
structure ReadsAs (s bytes : Scan) : Prop where
  part : bytes.part = s.part
  awaitingPath : bytes.awaitingPath = s.awaitingPath
  scope : bytes.scope = s.scope
  files : bytes.files = s.files.map FileEntry.bytewise
  trimmed : ∀ e ∈ s.files, e.Trimmed
  records : bytes.records = s.records

variable {s bytes : Scan} {lines : List Text}

theorem setLastPath_bytewise (path : Text) (files : List FileEntry) :
    setLastPath path.bytewise (files.map FileEntry.bytewise) =
      (setLastPath path files).map FileEntry.bytewise := by
  cases files <;> rfl

theorem trimmed_setLastPath {path : Text} (hpath : IsTrimmed path) {files : List FileEntry}
    (h : ∀ e ∈ files, e.Trimmed) : ∀ e ∈ setLastPath path files, e.Trimmed := by
  cases files with
  | nil => exact h
  | cons last before =>
    obtain ⟨hlast, hbefore⟩ := List.forall_mem_cons.mp h
    exact List.forall_mem_cons.mpr ⟨⟨hlast.1, by simpa using hpath⟩, hbefore⟩

theorem ReadsAs.fileLine (h : s.ReadsAs bytes) (hline : IsTrimmed line)
    (hskip : s.awaitingPath = false → FileEntry.SkipsAscii line) :
    (s.fileLine line).ReadsAs (bytes.fileLine line.bytewise) := by
  unfold Scan.fileLine
  rw [h.awaitingPath]
  split
  next =>
    exact { h with
      awaitingPath := rfl
      files := h.files ▸ setLastPath_bytewise line s.files
      trimmed := trimmed_setLastPath hline h.trimmed }
  next hwaiting =>
    rw [FileEntry.ofLine?_bytewise hline (hskip (Bool.eq_false_iff.mpr hwaiting))]
    cases hentry : FileEntry.ofLine? line with
    | none => exact { h with awaitingPath := rfl }
    | some entry =>
      exact { h with
        awaitingPath := rfl
        files := congrArg _ h.files
        trimmed := List.forall_mem_cons.mpr ⟨FileEntry.trimmed_of_ofLine? hentry, h.trimmed⟩ }

theorem ReadsAs.recordLine (h : s.ReadsAs bytes) (hline : IsTrimmed line) :
    (s.recordLine line).ReadsAs (bytes.recordLine line.bytewise) := by
  unfold Scan.recordLine
  rw [record?_bytewise hline, h.scope]
  split
  next => exact { h with scope := rfl, records := by simp only [h.records] }
  next => exact { h with scope := rfl }

/-- Each line keeps the two scans together. -/
theorem ReadsAs.step (h : s.ReadsAs bytes) (hline : IsTrimmed line) (hskip : s.SkipsAscii line) :
    (s.step line).ReadsAs (bytes.step line.bytewise) := by
  have hfileBytes := isFileMarker_bytewise hline
  have hlineBytes := isLineMarker_bytewise hline
  have hmarkerBytes := isMarker_bytewise hline
  by_cases hfile : isFileMarker line = true
  · rw [step_fileMarker hfile, step_fileMarker (hfileBytes.trans hfile)]
    exact { h with part := rfl, awaitingPath := rfl }
  by_cases hlineMarker : isLineMarker line = true
  · have hfirst : bytes.files.getLast?.map FileEntry.id = s.files.getLast?.map FileEntry.id := by
      rw [h.files, List.getLast?_map, Option.map_map]
      rfl
    rw [step_lineMarker hlineMarker, step_lineMarker (hlineBytes.trans hlineMarker)]
    exact { h with part := rfl, scope := hfirst }
  cases hmarker : isMarker line with
  | true =>
    rw [step_otherMarker hmarker hfile hlineMarker, step_otherMarker (hmarkerBytes.trans hmarker)
      (hfileBytes ▸ hfile) (hlineBytes ▸ hlineMarker)]
    exact { h with part := rfl }
  | false =>
    rw [step_plain hmarker, step_plain (hmarkerBytes.trans hmarker), h.part]
    split
    next hpart => exact h.fileLine hline (hskip hpart)
    next => exact h.recordLine hline
    next => exact h

/-- All lines keep the two scans together. -/
theorem ReadsAs.foldl (h : s.ReadsAs bytes) (hlines : ∀ line ∈ lines, IsTrimmed line)
    (hskip : s.SkipsAsciiIn lines) :
    (lines.foldl Scan.step s).ReadsAs ((lines.map Text.bytewise).foldl Scan.step bytes) := by
  induction lines generalizing s bytes with
  | nil => exact h
  | cons line rest ih =>
    obtain ⟨hline, hrest⟩ := List.forall_mem_cons.mp hlines
    exact ih (h.step hline hskip.1) hrest hskip.2

theorem ReadsAs.inOrder (h : s.ReadsAs bytes) : s.inOrder.ReadsAs bytes.inOrder where
  part := h.part
  awaitingPath := h.awaitingPath
  scope := h.scope
  files := by simp [Scan.inOrder, h.files]
  trimmed := by simpa [Scan.inOrder] using h.trimmed
  records := congrArg List.reverse h.records

end Scan

theorem any_isLineMarker_ofText (h : SkipsAscii text) :
    (significantLines (Latin1.ofText text)).any isLineMarker =
      (significantLines text).any isLineMarker := by
  rw [significantLines_ofText h.ends, List.any_map, Bool.eq_iff_iff, List.any_eq_true,
    List.any_eq_true]
  refine exists_congr fun line => and_congr_right fun hline => ?_
  rw [Function.comp_apply, isLineMarker_bytewise (isTrimmed_of_mem_significantLines hline)]

theorem linesBeforeEnd_ofText (h : SkipsAscii text) :
    linesBeforeEnd (Latin1.ofText text) = (linesBeforeEnd text).map Text.bytewise := by
  have htakeWhile : ∀ lines : List Text, (∀ line ∈ lines, IsTrimmed line) →
      (lines.map Text.bytewise).takeWhile (fun line => !isEndMarker line) =
        (lines.takeWhile fun line => !isEndMarker line).map Text.bytewise := by
    intro lines hlines
    induction lines with
    | nil => rfl
    | cons line rest ih =>
      obtain ⟨hline, hrest⟩ := List.forall_mem_cons.mp hlines
      simp only [List.map_cons, List.takeWhile_cons, isEndMarker_bytewise hline, ih hrest]
      split <;> rfl
  rw [linesBeforeEnd, significantLines_ofText h.ends,
    htakeWhile _ fun _ => isTrimmed_of_mem_significantLines, linesBeforeEnd]

/-- The bytes of a text are scanned as the text is. -/
theorem scan_ofText (h : SkipsAscii text) : (scan text).ReadsAs (scan (Latin1.ofText text)) := by
  let start := Scan.start ((significantLines text).any isLineMarker)
  have hstart : start.ReadsAs start := ⟨rfl, rfl, rfl, rfl, nofun, rfl⟩
  have hscan : scan (Latin1.ofText text) =
      (((linesBeforeEnd text).map Text.bytewise).foldl Scan.step start).inOrder := by
    rw [← linesBeforeEnd_ofText h, scan, any_isLineMarker_ofText h]
    rfl
  rw [hscan]
  exact (hstart.foldl (fun _ => isTrimmed_of_mem_linesBeforeEnd) h.entries).inOrder

/-- The table of the bytes of a text: the records of the text, selected by the entries as they are
read byte by byte. -/
theorem parse_ofText (h : SkipsAscii text) (template : Template) :
    parse (Latin1.ofText text) template = (scan text).records.filter fun r =>
      keeps (retainedIds ((scan text).files.map FileEntry.bytewise) template) r.file := by
  have hscan := scan_ofText h
  rw [parse, hscan.files, hscan.records]

theorem retainedIds_bytewise {files : List FileEntry} {template : Template}
    (h : ∀ e ∈ files, e.bytewise.matchOf template = e.matchOf template) :
    retainedIds (files.map FileEntry.bytewise) template = retainedIds files template := by
  have hids : ∀ quality,
      ((files.map FileEntry.bytewise).filter fun e => e.matchOf template = quality).map
          FileEntry.id =
        (files.filter fun e => e.matchOf template = quality).map FileEntry.id := by
    intro quality
    rw [List.filter_map, List.map_map]
    refine congrArg (List.map FileEntry.id) (List.filter_congr fun e he => ?_)
    rw [Function.comp_apply, h e he]
  simp only [retainedIds, hids]

/-- Where the entries name the template as well byte by byte, the bytes of a text have its table. -/
theorem parse_ofText_of_matchOf (h : SkipsAscii text) {template : Template}
    (hmatch : ∀ e ∈ (scan text).files, e.bytewise.matchOf template = e.matchOf template) :
    parse (Latin1.ofText text) template = parse text template := by
  rw [parse_ofText h, retainedIds_bytewise hmatch, parse]

end TemplateMap.Stratum
