import TemplateMap.Proofs.Stratum.Layout

/-! The table of a text read without a scanner.  The lines before the end are cut into sections;
each section by itself gives its file entries or its line records, a record's file id depends on the
lines before it in its section and on the entries of the sections before that, and the entries that
name the template best select the records.  The scanner finds this table in every text. -/

namespace TemplateMap

/-- What `f` makes of each element, given those before it, in order. -/
def flatMapAfter {α β : Type} (f : List α → α → List β) (before : List α) : List α → List β
  | [] => []
  | x :: rest => f before x ++ flatMapAfter f (before ++ [x]) rest

theorem mem_flatMapAfter {α β : Type} {f : List α → α → List β} {before xs : List α} {y : β} :
    y ∈ flatMapAfter f before xs ↔
      ∃ left x right, xs = left ++ x :: right ∧ y ∈ f (before ++ left) x := by
  induction xs generalizing before with
  | nil => simp [flatMapAfter]
  | cons x rest ih =>
    rw [flatMapAfter, List.mem_append, ih]
    constructor
    · rintro (hx | ⟨left, x', right, rfl, hx⟩)
      · exact ⟨[], x, rest, rfl, by simpa using hx⟩
      · exact ⟨x :: left, x', right, rfl, by simpa using hx⟩
    · rintro ⟨_ | ⟨z, left⟩, x', right, heq, hx⟩
      · obtain ⟨rfl, rfl⟩ := List.cons.inj heq
        exact .inl (by simpa using hx)
      · obtain ⟨rfl, rfl⟩ := List.cons.inj heq
        exact .inr ⟨left, x', right, rfl, by simpa using hx⟩

namespace Stratum

/-! ### What a section says -/

/-- The file entries in the lines of a file section.  After an entry that announces its path the
next line is that path, whatever it looks like. -/
def entriesIn : List Text → List FileEntry
  | [] => []
  | [line] => (FileEntry.ofLine? line).toList.map Prod.fst
  | line :: next :: rest =>
    match FileEntry.ofLine? line with
    | some (entry, true) => { entry with path := some next } :: entriesIn rest
    | some (entry, false) => entry :: entriesIn (next :: rest)
    | none => entriesIn (next :: rest)

/-- The last file id that a record among the lines gives itself. -/
def lastId? (lines : List Text) : Option Text :=
  ((lines.filterMap record?).filterMap Segment.file).getLast?

/-- The record in a line, if it is one, with its file id: its own one, else the last one that a
record earlier in the section gives itself, else `first`. -/
def recordIn (first : Option Text) (earlier : List Text) (line : Text) : List Segment :=
  match record? line with
  | some r => [{ r with file := (r.file.or (lastId? earlier)).or first }]
  | none => []

/-- The records in the lines of a line section. -/
def recordsIn (first : Option Text) (lines : List Text) : List Segment :=
  flatMapAfter (recordIn first) [] lines

namespace Section

/-- The entries of a section, which has none if it is no file section. -/
def entries (p : Section) : List FileEntry := if isFileMarker p.marker then entriesIn p.body else []

/-- The records of a section after other sections, which has none if it is no line section.  A
record that no file id comes before belongs to the first file declared so far. -/
def records (before : List Section) (p : Section) : List Segment :=
  if isLineMarker p.marker then
    recordsIn ((before.flatMap entries).head?.map FileEntry.id) p.body
  else []

end Section

/-! ### What a text says -/

/-- The lines that say something, up to the first one that ends the text. -/
def linesBeforeEnd (text : Text) : List Text :=
  (significantLines text).takeWhile fun line => !isEndMarker line

/-- The entries of all file sections. -/
def entries (text : Text) : List FileEntry :=
  (Layout.ofLines (linesBeforeEnd text)).parts.flatMap Section.entries

/-- The records of all line sections, each with its file id.  Where no line of the text is the
marker of a line section, the lines before the first marker are one. -/
def records (text : Text) : List Segment :=
  let layout := Layout.ofLines (linesBeforeEnd text)
  (if (significantLines text).any isLineMarker then [] else recordsIn none layout.lead) ++
    flatMapAfter Section.records [] layout.parts

/-- The entry names the template, and no entry names it better. -/
structure IsBest (files : List FileEntry) (template : Template) (e : FileEntry) : Prop where
  names : e.matchOf template ≠ .none
  best : ∀ other ∈ files, (other.matchOf template).rank ≤ (e.matchOf template).rank

/-- A record in this scope is kept: no entry names the template, or one that names it best has the
scope as its id. -/
def IsKept (files : List FileEntry) (template : Template) (scope : Option Text) : Prop :=
  (∀ e ∈ files, e.matchOf template = .none) ∨
    ∃ e ∈ files, scope = some e.id ∧ IsBest files template e

instance (files : List FileEntry) (template : Template) (e : FileEntry) :
    Decidable (IsBest files template e) :=
  decidable_of_iff (e.matchOf template ≠ .none ∧
      ∀ other ∈ files, (other.matchOf template).rank ≤ (e.matchOf template).rank)
    ⟨fun h => ⟨h.1, h.2⟩, fun h => ⟨h.names, h.best⟩⟩

instance (files : List FileEntry) (template : Template) (scope : Option Text) :
    Decidable (IsKept files template scope) :=
  inferInstanceAs (Decidable (_ ∨ _))

/-! ### What the scanner knows after a section -/

theorem isMarker_of_isFileMarker {line : Text} (h : isFileMarker line = true) :
    isMarker line = true := by
  obtain rfl : line = ['*', 'F'] := by simpa [isFileMarker] using h
  exact isMarker_files

theorem isMarker_of_isLineMarker {line : Text} (h : isLineMarker line = true) :
    isMarker line = true := by
  obtain rfl : line = ['*', 'L'] := by simpa [isLineMarker] using h
  exact isMarker_lines

theorem isMarker_of_isEndMarker {line : Text} (h : isEndMarker line = true) :
    isMarker line = true := by
  obtain ⟨rest, rfl⟩ := List.isPrefixOf_iff_prefix.mp h
  rfl

/-- A line that is no marker is none of a certain kind. -/
theorem eq_false_of_plain {q : Text → Bool} {line : Text}
    (hq : ∀ line, q line = true → isMarker line = true) (h : isMarker line = false) :
    q line = false := by
  by_contra hpos
  exact Bool.false_ne_true (h.symm.trans (hq line (Bool.of_not_eq_false hpos)))

theorem lastId?_append (earlier : List Text) (line : Text) :
    lastId? (earlier ++ [line]) = ((record? line).bind Segment.file).or (lastId? earlier) := by
  cases hrecord : record? line with
  | none => simp [lastId?, hrecord]
  | some r => cases hfile : r.file <;> simp [lastId?, hrecord, hfile]

namespace Scan

variable {line : Text} {lines : List Text} {s : Scan}

theorem step_plain (h : isMarker line = false) (s : Scan) :
    s.step line = match s.part with
      | .files => s.fileLine line
      | .lines => s.recordLine line
      | .other => s := by
  have hfile : isFileMarker line = false := eq_false_of_plain (fun _ => isMarker_of_isFileMarker) h
  have hline : isLineMarker line = false := eq_false_of_plain (fun _ => isMarker_of_isLineMarker) h
  rw [step, hfile, hline, h]
  rfl

theorem foldl_other (hplain : ∀ line ∈ lines, isMarker line = false) (hpart : s.part = .other) :
    lines.foldl step s = s := by
  induction lines with
  | nil => rfl
  | cons line rest ih =>
    obtain ⟨hline, hrest⟩ := List.forall_mem_cons.mp hplain
    rw [List.foldl_cons, step_plain hline, hpart]
    exact ih hrest

/-- The lines of a file section add their entries. -/
theorem foldl_files (hplain : ∀ line ∈ lines, isMarker line = false) (hpart : s.part = .files)
    (hpath : s.awaitingPath = false) :
    (lines.foldl step s).files = (entriesIn lines).reverse ++ s.files ∧
      (lines.foldl step s).records = s.records := by
  fun_induction entriesIn lines generalizing s with
  | case1 => simp
  | case2 line =>
    have hline := hplain line List.mem_cons_self
    rw [List.foldl_cons, List.foldl_nil, step_plain hline, hpart]
    cases hentry : FileEntry.ofLine? line <;> simp [fileLine, hpath, hentry]
  | case3 line next rest entry hentry ih =>
    -- The second of the two lines is read as the path of the entry in the first one.
    obtain ⟨hline, hnext, hrest⟩ : isMarker line = false ∧ isMarker next = false ∧
        ∀ x ∈ rest, isMarker x = false := by simpa using hplain
    have hstep : (s.step line).step next =
        { s with
          awaitingPath := false
          files := { entry with path := some next } :: s.files
          log := .fileEntry entry.id entry.name :: s.log } := by
      rw [step_plain hline, hpart, step_plain hnext]
      simp [fileLine, hpath, hentry, hpart, setLastPath]
    have h := ih hrest (s := (s.step line).step next) (by rw [hstep]; exact hpart) (by rw [hstep])
    simpa [hstep] using h
  | case4 line next rest entry hentry ih =>
    obtain ⟨hline, hrest⟩ := List.forall_mem_cons.mp hplain
    rw [List.foldl_cons, step_plain hline, hpart]
    simpa [fileLine, hpath, hentry] using ih hrest (s := s.fileLine line)
      (by simp [fileLine, hpath, hentry, hpart]) (by simp [fileLine, hpath, hentry])
  | case5 line next rest hentry ih =>
    obtain ⟨hline, hrest⟩ := List.forall_mem_cons.mp hplain
    rw [List.foldl_cons, step_plain hline, hpart]
    simpa [fileLine, hpath, hentry] using ih hrest (s := s.fileLine line)
      (by simp [fileLine, hpath, hentry, hpart]) (by simp [fileLine, hpath, hentry])

/-- The lines of a line section add their records. -/
theorem foldl_lines (first : Option Text) (earlier : List Text)
    (hplain : ∀ line ∈ lines, isMarker line = false) (hpart : s.part = .lines)
    (hscope : s.scope = (lastId? earlier).or first) :
    (lines.foldl step s).files = s.files ∧
      (lines.foldl step s).records =
        (flatMapAfter (recordIn first) earlier lines).reverse ++ s.records := by
  induction lines generalizing s earlier with
  | nil => simp [flatMapAfter]
  | cons line rest ih =>
    obtain ⟨hline, hrest⟩ := List.forall_mem_cons.mp hplain
    rw [List.foldl_cons, step_plain hline, hpart]
    simp only [flatMapAfter]
    cases hrecord : record? line with
    | none =>
      have h := ih (earlier ++ [line]) hrest (s := s.recordLine line)
        (by simp [recordLine, hrecord, hpart])
        (by simp [recordLine, hrecord, hscope, lastId?_append])
      simpa [recordLine, recordIn, hrecord] using h
    | some r =>
      have h := ih (earlier ++ [line]) hrest (s := s.recordLine line)
        (by simp [recordLine, hrecord, hpart])
        (by simp [recordLine, hrecord, hscope, lastId?_append, Option.or_assoc])
      simpa [recordLine, recordIn, hrecord, hscope, Option.or_assoc] using h

theorem step_fileMarker (h : isFileMarker line = true) (s : Scan) :
    s.step line = { s with part := .files, awaitingPath := false } := by
  rw [step, if_pos h]

theorem step_lineMarker (h : isLineMarker line = true) (s : Scan) :
    s.step line = { s with part := .lines, scope := s.files.getLast?.map FileEntry.id } := by
  have hfile : isFileMarker line ≠ true := by
    obtain rfl : line = ['*', 'L'] := by simpa [isLineMarker] using h
    decide
  rw [step, if_neg hfile, if_pos h]

theorem step_otherMarker (h : isMarker line = true) (hfile : isFileMarker line ≠ true)
    (hline : isLineMarker line ≠ true) (s : Scan) : s.step line = { s with part := .other } := by
  rw [step, if_neg hfile, if_neg hline, if_pos h]

/-- A section adds its own entries and its own records, whatever was scanned before it. -/
theorem foldl_section {before : List Section}
    (hfiles : s.files = (before.flatMap Section.entries).reverse) (p : Section) :
    (p.lines.foldl step s).files = ((before ++ [p]).flatMap Section.entries).reverse ∧
      (p.lines.foldl step s).records = (p.records before).reverse ++ s.records := by
  have hplain := p.body_plain
  rw [Section.lines, List.foldl_cons]
  by_cases hfile : isFileMarker p.marker = true
  · obtain ⟨hentries, hrecords⟩ := foldl_files (s := s.step p.marker) hplain
      (by rw [step_fileMarker hfile]) (by rw [step_fileMarker hfile])
    have hline : isLineMarker p.marker = false := by
      have : p.marker = ['*', 'F'] := by simpa [isFileMarker] using hfile
      rw [this]
      decide
    rw [hentries, hrecords, step_fileMarker hfile]
    simp [Section.entries, Section.records, hfile, hline, hfiles]
  · by_cases hline : isLineMarker p.marker = true
    · obtain ⟨hentries, hrecords⟩ := foldl_lines (s := s.step p.marker)
        ((before.flatMap Section.entries).head?.map FileEntry.id) [] hplain
        (by rw [step_lineMarker hline])
        (by simp [step_lineMarker hline, hfiles, lastId?])
      rw [hentries, hrecords, step_lineMarker hline]
      simp [Section.entries, Section.records, recordsIn, hfile, hline, hfiles]
    · have hmarker := step_otherMarker p.marker_isMarker hfile hline s
      rw [foldl_other hplain (by rw [hmarker]), hmarker]
      simp [Section.entries, Section.records, hfile, hline, hfiles]

/-- From section to section the scanner knows the entries and records of the sections behind. -/
theorem foldl_sections (before parts : List Section)
    (hfiles : s.files = (before.flatMap Section.entries).reverse) :
    ((parts.flatMap Section.lines).foldl step s).files =
        ((before ++ parts).flatMap Section.entries).reverse ∧
      ((parts.flatMap Section.lines).foldl step s).records =
        (flatMapAfter Section.records before parts).reverse ++ s.records := by
  induction parts generalizing s before with
  | nil => simpa [flatMapAfter] using hfiles
  | cons p rest ih =>
    obtain ⟨hentries, hrecords⟩ := foldl_section hfiles p
    obtain ⟨ihfiles, ihrecords⟩ := ih _ hentries
    rw [List.flatMap_cons, List.foldl_append, ihfiles, ihrecords, hrecords]
    simp [flatMapAfter]

end Scan

theorem scan_eq (text : Text) :
    (scan text).files = entries text ∧ (scan text).records = records text := by
  let layout := Layout.ofLines (linesBeforeEnd text)
  let start := Scan.start ((significantLines text).any isLineMarker)
  let afterLead := layout.lead.foldl Scan.step start
  have hlines : linesBeforeEnd text = layout.lead ++ layout.parts.flatMap Section.lines :=
    (Layout.lines_ofLines _).symm
  have hscan : scan text =
      ((layout.parts.flatMap Section.lines).foldl Scan.step afterLead).inOrder := by
    rw [← List.foldl_append, ← hlines]
    rfl
  -- The lines before the first marker are records only where no line section is marked.
  have hlead : afterLead.files = [] ∧ afterLead.records =
      (if (significantLines text).any isLineMarker then [] else
        recordsIn none layout.lead).reverse := by
    cases hmarker : (significantLines text).any isLineMarker with
    | true =>
      have hsame : afterLead = start :=
        Scan.foldl_other layout.lead_plain (by simp [start, hmarker, Scan.start])
      simp [hsame, start, Scan.start]
    | false =>
      obtain ⟨hfiles, hrecords⟩ := Scan.foldl_lines (s := start) none [] layout.lead_plain
        (by simp [start, hmarker, Scan.start]) rfl
      exact ⟨hfiles, hrecords.trans (by simp [start, Scan.start, recordsIn])⟩
  obtain ⟨hfiles, hrecords⟩ := Scan.foldl_sections [] layout.parts hlead.1
  rw [hscan]
  simp only [Scan.inOrder, hfiles, hrecords, hlead.2]
  simp [entries, records, layout]

/-! ### Which records are kept -/

section Selection

variable {files : List FileEntry} {template : Template} {e : FileEntry}

theorem isBest_iff_of_exact {other : FileEntry} (hother : other ∈ files)
    (hexact : other.matchOf template = .exact) :
    IsBest files template e ↔ e.matchOf template = .exact := by
  constructor
  · intro h
    have hbest := h.best other hother
    rw [hexact] at hbest
    cases hmatch : e.matchOf template <;> simp_all [NameMatch.rank]
  · intro h
    refine ⟨by simp [h], fun x _ => ?_⟩
    rw [h]
    cases x.matchOf template <;> decide

theorem isBest_iff_of_not_exact (hnone : ∀ other ∈ files, other.matchOf template ≠ .exact)
    (he : e ∈ files) : IsBest files template e ↔ e.matchOf template = .contains := by
  constructor
  · intro h
    have := h.names
    have := hnone e he
    cases hmatch : e.matchOf template <;> simp_all
  · intro h
    refine ⟨by simp [h], fun x hx => ?_⟩
    have := hnone x hx
    rw [h]
    cases hmatch : x.matchOf template <;> simp_all [NameMatch.rank]

theorem retainedIds_of_exact {other : FileEntry} (hother : other ∈ files)
    (hexact : other.matchOf template = .exact) :
    retainedIds files template =
      (files.filter fun e => e.matchOf template = .exact).map FileEntry.id := by
  have hmem : other ∈ files.filter fun e => e.matchOf template = .exact := by
    simp [hother, hexact]
  exact if_neg (by simp [List.ne_nil_of_mem hmem])

theorem retainedIds_of_not_exact (hnone : ∀ other ∈ files, other.matchOf template ≠ .exact) :
    retainedIds files template =
      (files.filter fun e => e.matchOf template = .contains).map FileEntry.id :=
  if_pos (by simpa using hnone)

theorem keeps_ids_iff (p : FileEntry → Bool) (scope : Option Text) :
    keeps ((files.filter p).map FileEntry.id) scope = true ↔
      (∀ e ∈ files, p e = false) ∨ ∃ e ∈ files, scope = some e.id ∧ p e = true := by
  unfold keeps
  rw [Bool.or_eq_true]
  refine or_congr (by simp) ?_
  cases scope with
  | none => simp
  | some id =>
    simp only [List.contains_iff_mem, List.mem_map, List.mem_filter, Option.some.injEq]
    refine exists_congr fun e => ?_
    rw [and_assoc, and_comm (a := p e = true), eq_comm (a := id)]

/-- The ids that are retained select the records of the entries that name the template best. -/
theorem keeps_retainedIds_iff (scope : Option Text) :
    keeps (retainedIds files template) scope = true ↔ IsKept files template scope := by
  by_cases h : ∃ other ∈ files, other.matchOf template = .exact
  · obtain ⟨other, hother, hexact⟩ := h
    rw [retainedIds_of_exact hother hexact, keeps_ids_iff]
    refine or_congr ⟨fun h => ?_, fun h => ?_⟩ ?_
    · exact absurd hexact (by simpa using h other hother)
    · rw [h other hother] at hexact
      cases hexact
    · simp only [isBest_iff_of_exact hother hexact, decide_eq_true_eq]
  · have hnone : ∀ other ∈ files, other.matchOf template ≠ .exact := by simpa using h
    rw [retainedIds_of_not_exact hnone, keeps_ids_iff]
    refine or_congr (forall₂_congr fun e he => ?_) (exists_congr fun e => ?_)
    · have := hnone e he
      cases hmatch : e.matchOf template <;> simp_all
    · refine and_congr_right fun he => ?_
      rw [isBest_iff_of_not_exact hnone he, decide_eq_true_iff]

end Selection

theorem parse_eq_filter (text : Text) (template : Template) :
    parse text template =
      (records text).filter fun r => keeps (retainedIds (entries text) template) r.file := by
  obtain ⟨hfiles, hrecords⟩ := scan_eq text
  rw [parse, hfiles, hrecords]

end Stratum

end TemplateMap
