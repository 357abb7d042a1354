import TemplateMap.Proofs.Stratum.Reading

/-! Texts of several strata, each with its own file section and its own line section.  File ids are
not scoped to a stratum: a record's id is looked up among the entries of the whole text, and a
record without one takes the first entry of the whole text.  So a record that is kept belongs to an
entry of its own stratum only on two conditions, neither of which can be left out. -/

namespace TemplateMap

namespace Stratum

/-- One stratum of a text: its marker line, and the lines of its file section and of its line
section. -/
structure Layer where
  marker : Text
  files : List Text
  lines : List Text
  marker_isStratum : ['*', 'S'].isPrefixOf marker = true
  files_plain : ∀ line ∈ files, isMarker line = false
  lines_plain : ∀ line ∈ lines, isMarker line = false

namespace Layer

/-- The file entries of a stratum. -/
def entries (l : Layer) : List FileEntry := entriesIn l.files

/-- The records of a stratum after other strata: one that no file id comes before belongs to the
first file of them all. -/
def records (before : List Layer) (l : Layer) : List Segment :=
  recordsIn (((before ++ [l]).flatMap entries).head?.map FileEntry.id) l.lines

theorem marker_isMarker (l : Layer) : isMarker l.marker = true := by
  obtain ⟨rest, hrest⟩ := List.isPrefixOf_iff_prefix.mp l.marker_isStratum
  simp [isMarker, ← hrest]

/-- The sections of a stratum: one without lines, and the two others. -/
def sections (l : Layer) : List Section :=
  [⟨l.marker, [], l.marker_isMarker, isMarker_of_mem_nil⟩,
    ⟨['*', 'F'], l.files, isMarker_files, l.files_plain⟩,
    ⟨['*', 'L'], l.lines, isMarker_lines, l.lines_plain⟩]

/-- An entry of the stratum has this id. -/
def Declares (l : Layer) (id : Text) : Prop := ∃ e ∈ l.entries, e.id = id

/-- The first record of the stratum gives its file id. -/
def OpensWithId (l : Layer) : Prop :=
  ∀ r ∈ (l.lines.filterMap record?).head?, r.file ≠ none

/-- The ids that records of the stratum give themselves are declared in it. -/
def UsesOwnIds (l : Layer) : Prop :=
  ∀ line ∈ l.lines, ∀ r ∈ record? line, ∀ id ∈ r.file, l.Declares id

end Layer

instance (l : Layer) (id : Text) : Decidable (l.Declares id) :=
  inferInstanceAs (Decidable (∃ e ∈ l.entries, e.id = id))

instance (l : Layer) : Decidable l.OpensWithId :=
  inferInstanceAs (Decidable (∀ r ∈ (l.lines.filterMap record?).head?, r.file ≠ none))

instance (l : Layer) : Decidable l.UsesOwnIds :=
  inferInstanceAs (Decidable (∀ line ∈ l.lines, ∀ r ∈ record? line, ∀ id ∈ r.file, l.Declares id))

/-- A text's lines in front of the strata, and the strata. -/
structure Strata where
  header : List Text
  layers : List Layer
  header_plain : ∀ line ∈ header, isMarker line = false

namespace Strata

/-- The sections of all strata. -/
def layout (t : Strata) : Layout := ⟨t.header, t.layers.flatMap Layer.sections, t.header_plain⟩

/-- The text says this up to its end. -/
def WrittenIn (t : Strata) (text : Text) : Prop := linesBeforeEnd text = t.layout.lines

/-- Some entry of some stratum names the template exactly. -/
def NamesExactly (t : Strata) (template : Template) : Prop :=
  ∃ l ∈ t.layers, ∃ e ∈ l.entries, e.matchOf template = .exact

/-- An id that two strata declare names the template exactly in both or in neither. -/
def IdsAgree (t : Strata) (template : Template) : Prop :=
  t.layers.Pairwise fun a b => ∀ e ∈ a.entries, ∀ e' ∈ b.entries, e.id = e'.id →
    (e.matchOf template = .exact ↔ e'.matchOf template = .exact)

instance (t : Strata) (text : Text) : Decidable (t.WrittenIn text) :=
  inferInstanceAs (Decidable (linesBeforeEnd text = t.layout.lines))

instance (t : Strata) (template : Template) : Decidable (t.NamesExactly template) :=
  inferInstanceAs (Decidable (∃ l ∈ t.layers, ∃ e ∈ l.entries, e.matchOf template = .exact))

instance (t : Strata) (template : Template) : Decidable (t.IdsAgree template) :=
  inferInstanceAs (Decidable (t.layers.Pairwise fun a b => ∀ e ∈ a.entries, ∀ e' ∈ b.entries,
    e.id = e'.id → (e.matchOf template = .exact ↔ e'.matchOf template = .exact)))

/-- Every record that the text's table of the template holds has, in the stratum that it stands in,
the id of an entry that names the template exactly. -/
def SelectsOwn (t : Strata) (text : Text) (template : Template) : Prop :=
  ∀ before l after, t.layers = before ++ l :: after → ∀ r ∈ l.records before,
    r ∈ parse text template → ∃ e ∈ l.entries, r.file = some e.id ∧ e.matchOf template = .exact

end Strata

/-! ### What such a text says -/

namespace Layer

@[simp] theorem flatMap_sections_entries (l : Layer) :
    l.sections.flatMap Section.entries = l.entries := by
  simp [sections, Section.entries, entries, isFileMarker, entriesIn]

theorem flatMap_layers_entries (layers : List Layer) :
    (layers.flatMap sections).flatMap Section.entries = layers.flatMap entries := by
  simp only [List.flatMap_assoc, flatMap_sections_entries]

theorem flatMapAfter_sections (before : List Section) (l : Layer) (rest : List Section) :
    flatMapAfter Section.records before (l.sections ++ rest) =
      recordsIn (((before ++ l.sections).flatMap Section.entries).head?.map FileEntry.id) l.lines ++
        flatMapAfter Section.records (before ++ l.sections) rest := by
  simp [sections, flatMapAfter, Section.records, isLineMarker, recordsIn, Section.entries,
    isFileMarker]

theorem flatMapAfter_records (before layers : List Layer) :
    flatMapAfter Section.records (before.flatMap sections) (layers.flatMap sections) =
      flatMapAfter records before layers := by
  induction layers generalizing before with
  | nil => rfl
  | cons l rest ih =>
    have hbefore : before.flatMap sections ++ l.sections = (before ++ [l]).flatMap sections := by
      simp
    rw [List.flatMap_cons, flatMapAfter_sections, hbefore, ih, flatMap_layers_entries]
    rfl

end Layer

namespace Strata

variable {t : Strata} {text : Text} {template : Template}

theorem WrittenIn.layout_eq (h : t.WrittenIn text) :
    Layout.ofLines (linesBeforeEnd text) = t.layout := by
  rw [h, Layout.ofLines_lines]

theorem WrittenIn.entries_eq (h : t.WrittenIn text) :
    Stratum.entries text = t.layers.flatMap Layer.entries := by
  rw [Stratum.entries, h.layout_eq, layout, Layer.flatMap_layers_entries]

theorem WrittenIn.mem_entries (h : t.WrittenIn text) {e : FileEntry} :
    e ∈ Stratum.entries text ↔ ∃ l ∈ t.layers, e ∈ l.entries := by
  rw [h.entries_eq, List.mem_flatMap]

theorem WrittenIn.any_isLineMarker (h : t.WrittenIn text) (hlayers : t.layers ≠ []) :
    (significantLines text).any isLineMarker = true := by
  obtain ⟨l, rest, hl⟩ := List.exists_cons_of_ne_nil hlayers
  have hmem : ['*', 'L'] ∈ linesBeforeEnd text := by
    rw [h]
    simp [layout, Layout.lines, hl, Layer.sections, Section.lines]
  exact List.any_eq_true.mpr ⟨_, List.takeWhile_subset _ hmem, rfl⟩

/-- The records of a text of strata are those of its strata. -/
theorem WrittenIn.records_eq (h : t.WrittenIn text) (hlayers : t.layers ≠ []) :
    Stratum.records text = flatMapAfter Layer.records [] t.layers := by
  have hparts := Layer.flatMapAfter_records [] t.layers
  simp only [Stratum.records, h.layout_eq, h.any_isLineMarker hlayers, if_true, List.nil_append]
  exact hparts

theorem NamesExactly.layers_ne_nil (h : t.NamesExactly template) : t.layers ≠ [] := by
  obtain ⟨l, hl, -⟩ := h
  exact List.ne_nil_of_mem hl

/-- Where an entry names the template exactly, the records that are kept have the id of such an
entry, in whichever stratum. -/
theorem WrittenIn.isKept_iff (h : t.WrittenIn text) (hnames : t.NamesExactly template)
    (scope : Option Text) :
    IsKept (Stratum.entries text) template scope ↔
      ∃ l ∈ t.layers, ∃ e ∈ l.entries, scope = some e.id ∧ e.matchOf template = .exact := by
  obtain ⟨l, hl, e, he, hexact⟩ := hnames
  have hmem : e ∈ Stratum.entries text := h.mem_entries.mpr ⟨l, hl, he⟩
  constructor
  · rintro (hnone | ⟨e', he', hscope, hbest⟩)
    · rw [hnone e hmem] at hexact
      cases hexact
    · obtain ⟨l', hl', hmem'⟩ := h.mem_entries.mp he'
      exact ⟨l', hl', e', hmem', hscope, (isBest_iff_of_exact hmem hexact).mp hbest⟩
  · rintro ⟨l', hl', e', he', hscope, hexact'⟩
    exact .inr ⟨e', h.mem_entries.mpr ⟨l', hl', he'⟩, hscope,
      (isBest_iff_of_exact hmem hexact).mpr hexact'⟩

end Strata

/-! ### Records whose id their own stratum declares -/

theorem lastId?_mem {lines : List Text} {id : Text} (h : lastId? lines = some id) :
    ∃ line ∈ lines, ∃ r ∈ record? line, r.file = some id := by
  obtain ⟨r, hr, hfile⟩ := List.mem_filterMap.mp (List.mem_of_getLast? h)
  obtain ⟨line, hline, hrecord⟩ := List.mem_filterMap.mp hr
  exact ⟨line, hline, r, hrecord, hfile⟩

theorem mem_recordIn {first : Option Text} {earlier : List Text} {line : Text} {r : Segment}
    (h : r ∈ recordIn first earlier line) :
    ∃ own ∈ record? line, r.file = (own.file.or (lastId? earlier)).or first := by
  unfold recordIn at h
  split at h
  next own hown =>
    obtain rfl := List.mem_singleton.mp h
    exact ⟨own, hown, rfl⟩
  next => cases h

theorem lastId?_eq_none {lines : List Text} (h : lastId? lines = none) :
    ∀ r ∈ lines.filterMap record?, r.file = none := by
  have hids : (lines.filterMap record?).filterMap Segment.file = [] :=
    List.getLast?_eq_none_iff.mp h
  exact List.filterMap_eq_nil_iff.mp hids

/-- A record's id is declared in its own stratum, unless no record of the stratum up to it gives one
and the stratum is not the first. -/
theorem Layer.declares_of_mem_records {before : List Layer} {l : Layer} {r : Segment} {id : Text}
    (hown : l.UsesOwnIds) (hfirst : before = [] ∨ l.OpensWithId) (hr : r ∈ l.records before)
    (hid : r.file = some id) : l.Declares id := by
  obtain ⟨earlier, line, later, hlines, hmem⟩ := mem_flatMapAfter.mp hr
  obtain ⟨own, hrecord, hfile⟩ := mem_recordIn hmem
  rw [hid, List.nil_append] at hfile
  cases hownId : own.file with
  | some ownId =>
    obtain rfl : id = ownId := by simpa [hownId] using hfile
    exact hown line (by simp [hlines]) own hrecord id hownId
  | none =>
    cases hlast : lastId? earlier with
    | some lastId =>
      obtain rfl : id = lastId := by simpa [hownId, hlast] using hfile
      obtain ⟨line', hline', r', hr', hid'⟩ := lastId?_mem hlast
      exact hown line' (by simp [hlines, hline']) r' hr' id hid'
    | none =>
      -- No record up to this one gives an id, so the stratum does not open with one.
      have hnone : ∀ x ∈ (earlier ++ [line]).filterMap record?, x.file = none := by
        intro x hx
        rw [List.filterMap_append, List.mem_append] at hx
        rcases hx with hx | hx
        · exact lastId?_eq_none hlast x hx
        · obtain rfl : x = own := by simpa [Option.mem_def.mp hrecord] using hx
          exact hownId
      have hmem' : own ∈ (earlier ++ [line]).filterMap record? :=
        List.mem_filterMap.mpr ⟨line, by simp, hrecord⟩
      obtain ⟨x, xs, hcons⟩ := List.exists_cons_of_ne_nil (List.ne_nil_of_mem hmem')
      have hhead : x ∈ (l.lines.filterMap record?).head? := by
        rw [hlines, show earlier ++ line :: later = (earlier ++ [line]) ++ later by simp,
          List.filterMap_append, hcons]
        rfl
      rcases hfirst with rfl | hopens
      · rw [hownId, hlast] at hfile
        obtain ⟨e, he, hid⟩ := Option.map_eq_some_iff.mp hfile.symm
        exact ⟨e, by simpa using List.mem_of_head? he, hid⟩
      · exact absurd (hnone x (by simp [hcons])) (hopens x hhead)

namespace Strata

variable {t : Strata} {text : Text} {template : Template}

theorem IdsAgree.exact_of_exact {before after : List Layer} {l l' : Layer} {e e' : FileEntry}
    (h : t.IdsAgree template) (hlayers : t.layers = before ++ l :: after) (hl' : l' ∈ t.layers)
    (he : e ∈ l.entries) (he' : e' ∈ l'.entries) (hid : e.id = e'.id)
    (hexact : e'.matchOf template = .exact) :
    ∃ own ∈ l.entries, own.id = e.id ∧ own.matchOf template = .exact := by
  unfold IdsAgree at h
  rw [hlayers, List.pairwise_append, List.pairwise_cons] at h
  obtain ⟨-, ⟨hafter, -⟩, hbefore⟩ := h
  rw [hlayers, List.mem_append, List.mem_cons] at hl'
  rcases hl' with hl' | rfl | hl'
  · exact ⟨e, he, rfl, (hbefore l' hl' l List.mem_cons_self e' he' e he hid.symm).mp hexact⟩
  · exact ⟨e', he', hid.symm, hexact⟩
  · exact ⟨e, he, rfl, (hafter l' hl' e he e' he' hid).mpr hexact⟩

theorem WrittenIn.parse_eq (h : t.WrittenIn text) (hnames : t.NamesExactly template) :
    parse text template = (flatMapAfter Layer.records [] t.layers).filter fun r =>
      ∃ l ∈ t.layers, ∃ e ∈ l.entries, r.file = some e.id ∧ e.matchOf template = .exact := by
  rw [parse_eq_filter, h.records_eq hnames.layers_ne_nil]
  refine List.filter_congr fun r _ => ?_
  rw [Bool.eq_iff_iff, keeps_retainedIds_iff, h.isKept_iff hnames, decide_eq_true_iff]

/-- The table of a text of strata holds the records whose id some stratum declares for an entry that
names the template exactly.  That entry is in the record's own stratum if the strata agree on the
ids that they share and each of them but the first opens with a record that gives its id. -/
theorem parse_eq_and_selectsOwn (t : Strata) (text : Text) (template : Template)
    (hwritten : t.WrittenIn text) (hnames : t.NamesExactly template)
    (hown : ∀ l ∈ t.layers, l.UsesOwnIds) :
    parse text template = ((flatMapAfter Layer.records [] t.layers).filter fun r =>
      ∃ l ∈ t.layers, ∃ e ∈ l.entries, r.file = some e.id ∧ e.matchOf template = .exact) ∧
    (t.IdsAgree template → (∀ l ∈ t.layers.tail, l.OpensWithId) →
      t.SelectsOwn text template) := by
  have hparse := hwritten.parse_eq hnames
  refine ⟨hparse, fun hagree hopens before l after hlayers r hr hkept => ?_⟩
  rw [hparse, List.mem_filter, decide_eq_true_iff] at hkept
  obtain ⟨-, l', hl', e', he', hid, hexact⟩ := hkept
  have hfirst : before = [] ∨ l.OpensWithId := by
    cases before with
    | nil => exact .inl rfl
    | cons first rest => exact .inr (hopens l (by simp [hlayers]))
  obtain ⟨e, he, heq⟩ := Layer.declares_of_mem_records (hown l (by simp [hlayers])) hfirst hr hid
  obtain ⟨own, hmem, hownId, hownExact⟩ := hagree.exact_of_exact hlayers hl' he he' heq hexact
  exact ⟨own, hmem, by rw [hid, hownId, heq], hownExact⟩

/-- A text whose first stratum has a record of the file `a.jsp`, and a second stratum. -/
def sampleText (files lines : List Text) : Text :=
  Text.joined ['\n'] (["SMAP".toList, "*S A".toList, "*F".toList, "0 a.jsp".toList, "*L".toList,
    "1:10".toList, "*S B".toList, "*F".toList] ++ files ++ ["*L".toList] ++ lines ++
    ["*E".toList])

/-- The strata of that text. -/
def sample (files lines : List Text) (hfiles : ∀ line ∈ files, isMarker line = false)
    (hlines : ∀ line ∈ lines, isMarker line = false) : Strata where
  header := ["SMAP".toList]
  layers := [
    ⟨"*S A".toList, ["0 a.jsp".toList], ["1:10".toList], by decide, by decide, by decide⟩,
    ⟨"*S B".toList, files, lines, by decide, hfiles, hlines⟩]
  header_plain := by decide

/-- Two strata that share no id and both declare the template. -/
def apart : Strata :=
  sample ["1 b.jsp".toList, "2 a.jsp".toList]
    ["2#1:20".toList, "3:30".toList, "4#2:40".toList] (by decide) (by decide)

theorem apart_selectsOwn :
    let text := sampleText ["1 b.jsp".toList, "2 a.jsp".toList]
      ["2#1:20".toList, "3:30".toList, "4#2:40".toList]
    let template : Template := ⟨"a.jsp".toList⟩
    parse text template = [.of 1 1 10 1 (some ['0']), .of 4 1 40 1 (some ['2'])] ∧
      apart.SelectsOwn text template := by
  intro text template
  obtain ⟨hparse, hselects⟩ := parse_eq_and_selectsOwn apart text template (by decide +kernel)
    (by decide +kernel) (by decide +kernel)
  refine ⟨hparse.trans ?_, hselects (by decide +kernel) (by decide +kernel)⟩
  decide +kernel

/-- A record of another file is kept where the strata share an id, though each of them but the first
opens with a record that gives its id; and it is kept where a record takes its id from the first
stratum, though the strata share none. -/
theorem not_forall_selectsOwn :
    (¬ ∀ (t : Strata) (text : Text) (template : Template), t.WrittenIn text →
      t.NamesExactly template → (∀ l ∈ t.layers, l.UsesOwnIds) →
      (∀ l ∈ t.layers.tail, l.OpensWithId) → t.SelectsOwn text template) ∧
    ¬ ∀ (t : Strata) (text : Text) (template : Template), t.WrittenIn text →
      t.NamesExactly template → (∀ l ∈ t.layers, l.UsesOwnIds) → t.IdsAgree template →
      t.SelectsOwn text template := by
  constructor
  · intro h
    let t := sample ["0 b.jsp".toList] ["2#0:20".toList] (by decide) (by decide)
    have hselects := h t (sampleText ["0 b.jsp".toList] ["2#0:20".toList]) ⟨"a.jsp".toList⟩
      (by decide +kernel) (by decide +kernel) (by decide +kernel) (by decide +kernel)
    have hexact := hselects [t.layers[0]] t.layers[1] [] rfl (.of 2 1 20 1 (some ['0']))
      (by decide +kernel) (by decide +kernel)
    revert hexact
    decide +kernel
  · intro h
    let t := sample ["1 b.jsp".toList] ["2:20".toList] (by decide) (by decide)
    have hselects := h t (sampleText ["1 b.jsp".toList] ["2:20".toList]) ⟨"a.jsp".toList⟩
      (by decide +kernel) (by decide +kernel) (by decide +kernel) (by decide +kernel)
    have hexact := hselects [t.layers[0]] t.layers[1] [] rfl (.of 2 1 20 1 (some ['0']))
      (by decide +kernel) (by decide +kernel)
    revert hexact
    decide +kernel

end Strata

end Stratum

end TemplateMap
