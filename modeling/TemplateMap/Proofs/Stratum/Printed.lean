import TemplateMap.Proofs.Stratum.Lines
import TemplateMap.Proofs.Stratum.Reading
import TemplateMap.Proofs.Stratum.Record

/-! Segments written as line records and read back: each record gives its segment, and a text of
one line section gives all of them. -/

namespace TemplateMap

namespace Segment

/-- A segment is built from its own numbers. -/
theorem of_self (s : Segment) : of s.template s.count s.generated s.stride s.file = s := by
  obtain ⟨template, count, generated, stride, file, htemplate, hpos, hcount, hgenerated, hstride,
    hle, hsingle⟩ := s
  have hlines : max 1 (min count lastLine) = count := by omega
  have hstrideOf : (if count = 1 then 1 else max 1 (min stride lastLine)) = stride := by
    split
    next h => exact (hsingle h).symm
    next => omega
  simp only [of, hlines, hstrideOf, Nat.min_eq_left htemplate, Nat.min_eq_left hgenerated]

end Segment

namespace Stratum

/-! ### One record -/

/-- The file id that a record gives, with the number sign in front. -/
def shownFile (file : Option Text) : Text := file.elim [] ('#' :: ·)

/-- A count or a stride with its comma, which are left out for one. -/
def shownExtra (n : Nat) : Text := if n = 1 then [] else ',' :: Text.ofNat n

theorem shown_eq (s : Segment) :
    s.shown = (Text.ofNat s.template ++ shownFile s.file ++ shownExtra s.count) ++
      ':' :: (Text.ofNat s.generated ++ shownExtra s.stride) := by
  cases hfile : s.file <;> simp [Segment.shown, shownFile, shownExtra, hfile]

theorem isIdChar_of_mem_ofNat {n : Nat} {c : Char} (h : c ∈ Text.ofNat n) : isIdChar c = true := by
  simp [isIdChar, Char.isAlphanum, Text.isDigit_of_mem_ofNat h]

theorem ofNat_isNumber {n : Nat} (h : n ≤ lastLine) : IsNumber (Text.ofNat n) n :=
  number?_eq_some_iff.mp (Text.number?_ofNat h)

theorem shownFile_isOptional {file : Option Text} (hfile : ∀ id ∈ file, isFileId id = true) :
    IsOptional '#' IsId none (shownFile file) file := by
  cases file with
  | none => exact .absent
  | some id => exact .given (id?_eq_some_iff.mp (if_pos (hfile id rfl)))

theorem shownExtra_isOptional {n : Nat} (h : n ≤ lastLine) :
    IsOptional ',' IsNumber 1 (shownExtra n) n := by
  unfold shownExtra
  split
  next hone =>
    rw [hone]
    exact .absent
  next => exact .given (ofNat_isNumber h)

theorem shown_isRecord {s : Segment} (hfile : ∀ id ∈ s.file, isFileId id = true) :
    IsRecord s.shown s := by
  have hcount := s.count_pos
  have hstride := s.stride_pos
  have hrecord : IsRecord s.shown (.of s.template s.count s.generated s.stride s.file) := by
    rw [shown_eq]
    exact .intro (ofNat_isNumber s.template_le) (shownFile_isOptional hfile)
      (shownExtra_isOptional s.count_le) (ofNat_isNumber s.generated_le)
      (shownExtra_isOptional s.stride_le) (by omega) (.inl (by omega))
  rwa [s.of_self] at hrecord

/-- A segment written as a record reads back as the segment. -/
theorem record?_shown {s : Segment} (hfile : ∀ id ∈ s.file, isFileId id = true) :
    record? s.shown = some s := (shown_isRecord hfile).record?_eq

theorem shown_isToken {s : Segment} (hfile : ∀ id ∈ s.file, isFileId id = true) :
    IsToken s.shown where
  nonempty := by simp [Segment.shown]
  solid := (shown_isRecord hfile).forall_mem (fun _ => isBlank_of_isIdChar) rfl rfl rfl

/-- A record begins with a digit, so it is no marker. -/
theorem isMarker_shown (s : Segment) : isMarker s.shown = false := by
  obtain ⟨c, rest, hdigits⟩ := List.exists_cons_of_ne_nil (Text.ofNat_ne_nil s.template)
  have hc : isIdChar c = true := isIdChar_of_mem_ofNat (hdigits ▸ List.mem_cons_self)
  have hne : '*' ≠ c := by
    rintro rfl
    cases hc
  rw [shown_eq, hdigits]
  simp [isMarker, List.isPrefixOf, hne]

theorem isEndMarker_shown (s : Segment) : isEndMarker s.shown = false :=
  eq_false_of_plain (fun _ => isMarker_of_isEndMarker) (isMarker_shown s)

/-! ### A line section of records -/

/-- Segments as the text of one line section. -/
def printed (segments : List Segment) : Text :=
  "*L\n".toList ++ segments.flatMap (fun s => s.shown ++ ['\n']) ++ "*E\n".toList

theorem significantLines_printed {segments : List Segment}
    (hfile : ∀ s ∈ segments, ∀ id ∈ s.file, isFileId id = true) :
    significantLines (printed segments) =
      "*L".toList :: segments.map Segment.shown ++ ["*E".toList] := by
  have hend : significantLines "*E\n".toList = ["*E".toList] := by decide +kernel
  have hrecords : significantLines
      (segments.flatMap (fun s => s.shown ++ ['\n']) ++ "*E\n".toList) =
        segments.map Segment.shown ++ ["*E".toList] := by
    induction segments with
    | nil => exact hend
    | cons s rest ih =>
      obtain ⟨hs, hrest⟩ := List.forall_mem_cons.mp hfile
      have h := significantLines_append (shown_isToken hs)
        (rest.flatMap (fun s => s.shown ++ ['\n']) ++ "*E\n".toList)
      rw [ih hrest] at h
      simpa using h
  have hmarker : IsToken "*L".toList := by decide
  have h := significantLines_append hmarker
    (segments.flatMap (fun s => s.shown ++ ['\n']) ++ "*E\n".toList)
  rw [hrecords] at h
  simpa [printed] using h

theorem filterMap_record?_shown {segments : List Segment}
    (hfile : ∀ s ∈ segments, ∀ id ∈ s.file, isFileId id = true) :
    (segments.map Segment.shown).filterMap record? = segments := by
  induction segments with
  | nil => rfl
  | cons s rest ih =>
    obtain ⟨hs, hrest⟩ := List.forall_mem_cons.mp hfile
    rw [List.map_cons, List.filterMap_cons_some (record?_shown hs), ih hrest]

/-- Where the records without an id come first, each record's id is the one it gives itself. -/
theorem flatMapAfter_shown (earlier segments : List Segment)
    (hfile : ∀ s ∈ earlier ++ segments, ∀ id ∈ s.file, isFileId id = true)
    (horder : (earlier ++ segments).Pairwise fun a b => b.file = none → a.file = none) :
    flatMapAfter (recordIn none) (earlier.map Segment.shown) (segments.map Segment.shown) =
      segments := by
  induction segments generalizing earlier with
  | nil => rfl
  | cons s rest ih =>
    have hs := hfile s (by simp)
    have hearlier := filterMap_record?_shown fun x hx => hfile x (List.mem_append_left _ hx)
    have hscope : (s.file.or (lastId? (earlier.map Segment.shown))).or none = s.file := by
      cases hnone : s.file with
      | some id => rfl
      | none =>
        have hids : earlier.filterMap Segment.file = [] :=
          List.filterMap_eq_nil_iff.mpr fun x hx =>
            (List.pairwise_append.mp horder).2.2 x hx s List.mem_cons_self hnone
        rw [lastId?, hearlier, hids]
        rfl
    have hrest := ih (earlier ++ [s]) (by simpa using hfile) (by simpa using horder)
    rw [List.map_append, List.map_singleton] at hrest
    rw [List.map_cons, flatMapAfter, hrest, recordIn, record?_shown hs]
    simp only [hscope, List.singleton_append]

/-- The text of printed segments is one line section. -/
theorem layout_printed {segments : List Segment}
    (hfile : ∀ s ∈ segments, ∀ id ∈ s.file, isFileId id = true) :
    Layout.ofLines (linesBeforeEnd (printed segments)) =
      { lead := []
        parts := [
          { marker := "*L".toList
            body := segments.map Segment.shown
            marker_isMarker := rfl
            body_plain := by simp [isMarker_shown] }]
        lead_plain := nofun } := by
  have hlines : linesBeforeEnd (printed segments) = "*L".toList :: segments.map Segment.shown := by
    have hopen : ∀ line ∈ "*L".toList :: segments.map Segment.shown,
        (!isEndMarker line) = true :=
      List.forall_mem_cons.mpr ⟨rfl, by simp [isEndMarker_shown]⟩
    rw [linesBeforeEnd, significantLines_printed hfile, List.takeWhile_append_of_pos hopen]
    simp [isEndMarker]
  rw [hlines, ← Layout.ofLines_lines (Layout.mk [] _ nofun)]
  simp [Layout.lines, Section.lines]

/-- Segments written as records and read again are the same segments. -/
theorem parse_printed (segments : List Segment) (template : Template)
    (hfile : ∀ s ∈ segments, ∀ id ∈ s.file, isFileId id = true)
    (horder : segments.Pairwise fun a b => b.file = none → a.file = none) :
    parse (printed segments) template = segments := by
  have hlayout := layout_printed hfile
  have hmarker : (significantLines (printed segments)).any isLineMarker = true := by
    rw [significantLines_printed hfile]
    rfl
  have hentries : entries (printed segments) = [] := by
    rw [entries, hlayout]
    rfl
  have hrecords : records (printed segments) = segments := by
    rw [records, hlayout, hmarker]
    simpa [flatMapAfter, Section.records, isLineMarker, recordsIn] using
      flatMapAfter_shown [] segments hfile horder
  rw [parse_eq_filter, hentries, hrecords]
  exact List.filter_eq_self.mpr fun _ _ => rfl

/-- Segments that need all parts of a record, and all numbers at their bounds. -/
def printedSample : List Segment :=
  [.of 0 0 4294967295 7 none, .of 7 52 128 1 none, .of 124 4 246 3 (some ['1', 'a']),
    .of 4294967295 4294967295 0 4294967295 (some ['0'])]

theorem parse_printedSample :
    printed printedSample = "*L\n0:4294967295\n7,52:128\n124#1a,4:246,3\n".toList ++
      "4294967295#0,4294967295:0,4294967295\n*E\n".toList ∧
    parse (printed printedSample) ⟨"a.jsp".toList⟩ = printedSample := by
  refine ⟨by decide +kernel, parse_printed printedSample ⟨"a.jsp".toList⟩ ?_ ?_⟩
  · decide +kernel
  · decide +kernel

end Stratum

end TemplateMap
