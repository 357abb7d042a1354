import Mathlib.Logic.Relation
import TemplateMap.Proofs.Stratum.Ending

/-! Edits that leave the table of a text alone: white space around lines, other line endings, blank
lines, and lines that say nothing put where no file entry is read. -/

namespace TemplateMap.Stratum

/-! ### The edits -/

/-- White space within a line. -/
def IsGap (t : Text) : Prop := ∀ c ∈ t, isBlank c = true ∧ c ≠ '\n'

/-- A line that is neither a marker nor a record. -/
structure IsIdle (line : Text) : Prop where
  newline_notMem : '\n' ∉ line
  plain : isMarker line.trim = false
  noRecord : record? line.trim = none

/-- The last marker among the lines. -/
def lastMarker? (lines : List Text) : Option Text := (lines.filter isMarker).getLast?

/-- A line put behind the text stands in a file section: the last marker opens one, and the text has
not ended. -/
def LeavesFilesOpen (t : Text) : Prop :=
  lastMarker? (significantLines t) = some ['*', 'F'] ∧ ¬HasEnd t

instance : DecidablePred IsGap := fun t =>
  decidable_of_iff (t.all fun c => isBlank c && c != '\n') (by simp [IsGap])

instance (t : Text) : Decidable (LeavesFilesOpen t) :=
  inferInstanceAs (Decidable (_ ∧ _))

/-- One edit, at a line behind the whole lines `before` and in front of `rest`.  An idle line may be
put into a line section or where no section is open, but not into a file section, where it could be
an entry or a path. -/
inductive Edit : Text → Text → Prop
  | margins {before line ending rest left right : Text} (hbefore : before.IsWhole)
    (hline : '\n' ∉ line) (hending : Text.IsEnding ending rest) (hleft : IsGap left)
    (hright : IsGap right) :
    Edit (before ++ (line ++ ending ++ rest)) (before ++ (left ++ line ++ right ++ ending ++ rest))
  | ending {before line ending ending' rest : Text} (hbefore : before.IsWhole)
    (hline : '\n' ∉ line) (hending : Text.IsEnding ending rest)
    (hending' : Text.IsEnding ending' rest) :
    Edit (before ++ (line ++ ending ++ rest)) (before ++ (line ++ ending' ++ rest))
  | blankLine {before gap ending rest : Text} (hbefore : before.IsWhole) (hgap : IsGap gap)
    (hending : Text.IsEnding ending rest) :
    Edit (before ++ rest) (before ++ (gap ++ ending ++ rest))
  | idleLine {before line ending rest : Text} (hbefore : before.IsWhole) (hline : IsIdle line)
    (hplace : ¬LeavesFilesOpen before) (hending : Text.IsEnding ending rest) :
    Edit (before ++ rest) (before ++ (line ++ ending ++ rest))

variable {s t before line gap ending rest left right : Text}

/-! ### Edits that change no significant line -/

theorem IsGap.blank (h : IsGap t) : ∀ c ∈ t, isBlank c = true := fun c hc => (h c hc).1

theorem IsGap.newline_notMem (h : IsGap t) : '\n' ∉ t := fun hmem => (h _ hmem).2 rfl

theorem significantLines_margins (hbefore : before.IsWhole) (hline : '\n' ∉ line)
    (hending : Text.IsEnding ending rest) (hleft : IsGap left) (hright : IsGap right) :
    significantLines (before ++ (left ++ line ++ right ++ ending ++ rest)) =
      significantLines (before ++ (line ++ ending ++ rest)) := by
  have hwide : '\n' ∉ left ++ line ++ right := by
    simp [hleft.newline_notMem, hline, hright.newline_notMem]
  rw [significantLines_append_of_isWhole hbefore, significantLines_append_of_isWhole hbefore,
    significantLines_ending hwide hending, significantLines_ending hline hending,
    significant_margins hleft.blank hright.blank]

theorem significantLines_blankLine (hbefore : before.IsWhole) (hgap : IsGap gap)
    (hending : Text.IsEnding ending rest) :
    significantLines (before ++ (gap ++ ending ++ rest)) = significantLines (before ++ rest) := by
  rw [significantLines_append_of_isWhole hbefore, significantLines_append_of_isWhole hbefore,
    significantLines_ending hgap.newline_notMem hending, significant_blank hgap.blank,
    List.nil_append]

/-! ### Idle lines -/

namespace Scan

/-- The scan with nothing logged. -/
def silent (s : Scan) : Scan := { s with log := [] }

theorem fileLine_silent (s : Scan) (line : Text) :
    (s.silent.fileLine line).silent = (s.fileLine line).silent := by
  unfold fileLine
  change (if s.awaitingPath then _ else _ : Scan).silent = _
  split
  · rfl
  · split <;> rfl

theorem recordLine_silent (s : Scan) (line : Text) :
    (s.silent.recordLine line).silent = (s.recordLine line).silent := by
  unfold recordLine
  split <;> rfl

/-- What was logged has no part in a step. -/
theorem step_silent (s : Scan) (line : Text) :
    (s.silent.step line).silent = (s.step line).silent := by
  by_cases hmarker : isMarker line = true
  · by_cases hfile : isFileMarker line = true
    · rw [step_fileMarker hfile, step_fileMarker hfile]
      rfl
    · by_cases hline : isLineMarker line = true
      · rw [step_lineMarker hline, step_lineMarker hline]
        rfl
      · rw [step_otherMarker hmarker hfile hline, step_otherMarker hmarker hfile hline]
        rfl
  · have hplain : isMarker line = false := Bool.eq_false_iff.mpr hmarker
    have hpart : s.silent.part = s.part := rfl
    rw [step_plain hplain, step_plain hplain, hpart]
    cases s.part with
    | files => exact fileLine_silent s line
    | lines => exact recordLine_silent s line
    | other => rfl

theorem foldl_silent_congr {s t : Scan} (h : s.silent = t.silent) (lines : List Text) :
    (lines.foldl step s).silent = (lines.foldl step t).silent := by
  induction lines generalizing s t with
  | nil => exact h
  | cons line rest ih =>
    refine ih ?_
    rw [← step_silent s, h, step_silent]

theorem step_idle {s : Scan} {line : Text} (hpart : s.part ≠ .files)
    (hplain : isMarker line = false) (hnone : record? line = none) :
    (s.step line).silent = s.silent := by
  rw [step_plain hplain]
  cases hcase : s.part with
  | files => exact absurd hcase hpart
  | lines => simp [recordLine, hnone, silent]
  | other => rfl

theorem part_fileLine (s : Scan) (line : Text) : (s.fileLine line).part = s.part := by
  unfold fileLine
  split
  · rfl
  · split <;> rfl

theorem part_recordLine (s : Scan) (line : Text) : (s.recordLine line).part = s.part := by
  unfold recordLine
  split <;> rfl

theorem part_step_plain {s : Scan} {line : Text} (hplain : isMarker line = false) :
    (s.step line).part = s.part := by
  rw [step_plain hplain]
  cases hpart : s.part with
  | files => exact (part_fileLine s line).trans hpart
  | lines => exact (part_recordLine s line).trans hpart
  | other => exact hpart

theorem part_step_marker {s : Scan} {line : Text} (hmarker : isMarker line = true) :
    (s.step line).part = .files ↔ line = ['*', 'F'] := by
  rw [← decide_eq_true_iff (p := line = _)]
  change _ ↔ isFileMarker line = true
  by_cases hfile : isFileMarker line = true
  · simp [step_fileMarker hfile, hfile]
  · by_cases hline : isLineMarker line = true
    · simp [step_lineMarker hline, hfile]
    · simp [step_otherMarker hmarker hfile hline, hfile]

/-- The scan reads entries exactly if the last marker opened a file section. -/
theorem part_foldl_eq_files_iff {s : Scan} (hstart : s.part ≠ .files) (lines : List Text) :
    (lines.foldl step s).part = .files ↔ lastMarker? lines = some ['*', 'F'] := by
  induction lines using List.reverseRecOn with
  | nil => simp [lastMarker?, hstart]
  | append_singleton lines line ih =>
    rw [List.foldl_append, List.foldl_cons, List.foldl_nil]
    cases hmarker : isMarker line with
    | true =>
      have hlast : lastMarker? (lines ++ [line]) = some line := by simp [lastMarker?, hmarker]
      rw [part_step_marker hmarker, hlast, Option.some.injEq]
    | false =>
      have hlast : lastMarker? (lines ++ [line]) = lastMarker? lines := by
        simp [lastMarker?, hmarker]
      rw [part_step_plain hmarker, hlast, ih]

theorem foldl_idle {s : Scan} (hstart : s.part ≠ .files) {lines : List Text} {line : Text}
    (hplace : lastMarker? lines ≠ some ['*', 'F']) (hplain : isMarker line = false)
    (hnone : record? line = none) (rest : List Text) :
    ((lines ++ line :: rest).foldl step s).silent = ((lines ++ rest).foldl step s).silent := by
  have hpart : (lines.foldl step s).part ≠ .files :=
    mt (part_foldl_eq_files_iff hstart lines).mp hplace
  rw [List.foldl_append, List.foldl_append, List.foldl_cons]
  exact foldl_silent_congr (step_idle hpart hplain hnone) rest

theorem part_start_ne_files (hasLineMarker : Bool) : (start hasLineMarker).part ≠ .files := by
  cases hasLineMarker <;> exact nofun

end Scan

theorem scan_eq_foldl (t : Text) :
    scan t = ((linesBeforeEnd t).foldl Scan.step
      (Scan.start ((significantLines t).any isLineMarker))).inOrder := rfl

theorem scan_silent_congr (hlines : ∀ start : Scan, start.part ≠ .files →
      ((linesBeforeEnd s).foldl Scan.step start).silent =
        ((linesBeforeEnd t).foldl Scan.step start).silent)
    (hany : (significantLines s).any isLineMarker = (significantLines t).any isLineMarker) :
    (scan s).silent = (scan t).silent := by
  have hstart := hlines (Scan.start ((significantLines t).any isLineMarker))
    (Scan.part_start_ne_files _)
  rw [scan_eq_foldl, scan_eq_foldl, hany]
  exact congrArg Scan.inOrder hstart

theorem parse_eq_silent (t : Text) (template : Template) :
    parse t template = (scan t).silent.records.filter fun r =>
      keeps (retainedIds (scan t).silent.files template) r.file := rfl

theorem linesBeforeEnd_of_not_hasEnd (hbefore : before.IsWhole) (hend : ¬HasEnd before)
    (rest : Text) :
    linesBeforeEnd (before ++ rest) = significantLines before ++ linesBeforeEnd rest := by
  have hopen : ∀ line ∈ significantLines before, (!isEndMarker line) = true := by
    intro line hline
    by_contra hpos
    exact hend (exists_end_iff.mp ⟨line, hline, by simpa using hpos⟩)
  rw [linesBeforeEnd, significantLines_append_of_isWhole hbefore,
    List.takeWhile_append_of_pos hopen, linesBeforeEnd]

theorem IsIdle.isGap (h : IsIdle line) (hblank : line.trim = []) : IsGap line := fun c hc =>
  ⟨Text.trim_eq_nil_iff.mp hblank c hc, ne_of_mem_of_not_mem hc h.newline_notMem⟩

/-- An idle line is read as a line that says nothing, unless it is blank or stands behind the end
and is not read at all. -/
theorem scan_idleLine (hbefore : before.IsWhole) (hline : IsIdle line)
    (hplace : ¬LeavesFilesOpen before) (hending : Text.IsEnding ending rest) :
    (scan (before ++ (line ++ ending ++ rest))).silent = (scan (before ++ rest)).silent := by
  by_cases hblank : line.trim = []
  · rw [scan_congr (significantLines_blankLine hbefore (hline.isGap hblank) hending)]
  have hnew : significantLines (line ++ ending ++ rest) = line.trim :: significantLines rest := by
    have hsignificant : significant line = [line.trim] :=
      List.filter_cons_of_pos (by simpa using hblank)
    rw [significantLines_ending hline.newline_notMem hending, hsignificant, List.singleton_append]
  refine scan_silent_congr (fun start hstart => ?_) ?_
  · by_cases hend : HasEnd before
    · rw [linesBeforeEnd_of_append hend (significantLines_append_of_isWhole hbefore _),
        linesBeforeEnd_of_append hend (significantLines_append_of_isWhole hbefore _)]
    · have hfiles : lastMarker? (significantLines before) ≠ some ['*', 'F'] :=
        fun hlast => hplace ⟨hlast, hend⟩
      have hopen : isEndMarker line.trim = false :=
        eq_false_of_plain (fun _ => isMarker_of_isEndMarker) hline.plain
      have hread : linesBeforeEnd (line ++ ending ++ rest) = line.trim :: linesBeforeEnd rest := by
        rw [linesBeforeEnd, hnew, List.takeWhile_cons_of_pos (by simp [hopen]), linesBeforeEnd]
      rw [linesBeforeEnd_of_not_hasEnd hbefore hend, linesBeforeEnd_of_not_hasEnd hbefore hend,
        hread]
      exact Scan.foldl_idle hstart hfiles hline.plain hline.noRecord _
  · have hnoSection : isLineMarker line.trim = false :=
      eq_false_of_plain (fun _ => isMarker_of_isLineMarker) hline.plain
    rw [significantLines_append_of_isWhole hbefore, significantLines_append_of_isWhole hbefore,
      hnew, List.any_append, List.any_append, List.any_cons, hnoSection, Bool.false_or]

theorem Edit.parse_eq (h : Edit s t) (template : Template) :
    parse t template = parse s template := by
  cases h with
  | margins hbefore hline hending hleft hright =>
    exact parse_congr (significantLines_margins hbefore hline hending hleft hright) template
  | ending hbefore hline hending hending' =>
    refine parse_congr ?_ template
    rw [significantLines_append_of_isWhole hbefore, significantLines_append_of_isWhole hbefore,
      significantLines_ending hline hending, significantLines_ending hline hending']
  | blankLine hbefore hgap hending =>
    exact parse_congr (significantLines_blankLine hbefore hgap hending) template
  | idleLine hbefore hline hplace hending =>
    rw [parse_eq_silent, scan_idleLine hbefore hline hplace hending, ← parse_eq_silent]

/-- After any number of edits a text has the table that it had. -/
theorem parse_of_edits (h : Relation.ReflTransGen Edit s t) (template : Template) :
    parse t template = parse s template := by
  induction h with
  | refl => rfl
  | tail _ hedit ih => rw [hedit.parse_eq, ih]

theorem Edit.of_eq {s' t' : Text} (h : Edit s t) (hs : s = s') (ht : t = t') : Edit s' t' :=
  hs ▸ ht ▸ h

/-- A blank line before a path, an idle line before a record, and white space around it. -/
theorem parse_of_fourEdits :
    let plain := "*F\n+ 0 x\na\n*L\n1:10\n*E".toList
    let edited := "*F\n+ 0 x\n\t\na\n*L\n3#1,x:30\r\n 1:10\t\r\n*E".toList
    Relation.ReflTransGen Edit plain edited ∧
      parse edited ⟨['a']⟩ = [.of 1 1 10 1 (some ['0'])] := by
  intro plain edited
  have hblank : Edit plain "*F\n+ 0 x\n\t\na\n*L\n1:10\n*E".toList :=
    (@Edit.blankLine "*F\n+ 0 x\n".toList ['\t'] ['\n'] "a\n*L\n1:10\n*E".toList
      (by decide +kernel) (by decide +kernel) (.feed _)).of_eq
      (by decide +kernel) (by decide +kernel)
  have hidle : Edit "*F\n+ 0 x\n\t\na\n*L\n1:10\n*E".toList
      "*F\n+ 0 x\n\t\na\n*L\n3#1,x:30\r\n1:10\n*E".toList :=
    (@Edit.idleLine "*F\n+ 0 x\n\t\na\n*L\n".toList "3#1,x:30".toList ['\r', '\n']
      "1:10\n*E".toList (by decide +kernel)
      ⟨by decide +kernel, by decide +kernel, by decide +kernel⟩ (by decide +kernel)
      (.returnFeed _)).of_eq (by decide +kernel) (by decide +kernel)
  have hmargins : Edit "*F\n+ 0 x\n\t\na\n*L\n3#1,x:30\r\n1:10\n*E".toList
      "*F\n+ 0 x\n\t\na\n*L\n3#1,x:30\r\n 1:10\t\n*E".toList :=
    (@Edit.margins "*F\n+ 0 x\n\t\na\n*L\n3#1,x:30\r\n".toList "1:10".toList ['\n'] "*E".toList
      [' '] ['\t'] (by decide +kernel) (by decide +kernel) (.feed _) (by decide +kernel)
      (by decide +kernel)).of_eq (by decide +kernel) (by decide +kernel)
  have hending : Edit "*F\n+ 0 x\n\t\na\n*L\n3#1,x:30\r\n 1:10\t\n*E".toList edited :=
    (@Edit.ending "*F\n+ 0 x\n\t\na\n*L\n3#1,x:30\r\n".toList " 1:10\t".toList ['\n'] ['\r', '\n']
      "*E".toList (by decide +kernel) (by decide +kernel) (.feed _) (.returnFeed _)).of_eq
      (by decide +kernel) (by decide +kernel)
  have hedits := (((Relation.ReflTransGen.single hblank).tail hidle).tail hmargins).tail hending
  refine ⟨hedits, ?_⟩
  rw [parse_of_edits hedits]
  decide +kernel

end TemplateMap.Stratum
