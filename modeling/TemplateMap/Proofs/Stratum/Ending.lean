import TemplateMap.Proofs.Stratum.Lines
import TemplateMap.Proofs.Stratum.Reading

/-! What stands behind the end of a text.  No record and no entry is read there, but the marker of a
line section still counts: a text that has none of its own is then no longer read as a list of
records, and its table is empty. -/

namespace TemplateMap

theorem takeWhile_append_of_mem {α : Type} {p : α → Bool} {xs : List α} {x : α} (hx : x ∈ xs)
    (h : p x = false) (ys : List α) : (xs ++ ys).takeWhile p = xs.takeWhile p := by
  rw [List.takeWhile_append]
  split
  next hlength =>
    have hall := List.takeWhile_eq_self_iff.mp ((List.takeWhile_prefix p).eq_of_length hlength)
    exact absurd (hall x hx) (by simp [h])
  next => rfl

namespace Stratum

variable {t p : Text} {template : Template}

/-- Some line of the text ends it. -/
def HasEnd (t : Text) : Prop := ∃ line ∈ t.lines, isEndMarker line.trim = true

/-- Some line of the text is the marker of a line section. -/
def HasLineSection (t : Text) : Prop := ∃ line ∈ t.lines, isLineMarker line.trim = true

instance (t : Text) : Decidable (HasEnd t) :=
  inferInstanceAs (Decidable (∃ line ∈ t.lines, isEndMarker line.trim = true))

instance (t : Text) : Decidable (HasLineSection t) :=
  inferInstanceAs (Decidable (∃ line ∈ t.lines, isLineMarker line.trim = true))

theorem exists_significant_iff {q : Text → Bool} (hq : q [] = false) :
    (∃ line ∈ significantLines t, q line = true) ↔ ∃ line ∈ t.lines, q line.trim = true := by
  constructor
  · rintro ⟨line, hline, hpos⟩
    obtain ⟨raw, hraw, rfl⟩ := List.mem_map.mp (List.mem_of_mem_filter hline)
    exact ⟨raw, hraw, hpos⟩
  · rintro ⟨raw, hraw, hpos⟩
    have hne : raw.trim ≠ [] := by
      intro hnil
      rw [hnil, hq] at hpos
      cases hpos
    refine ⟨raw.trim, List.mem_filter.mpr ⟨List.mem_map_of_mem hraw, ?_⟩, hpos⟩
    simpa using hne

theorem exists_end_iff : (∃ line ∈ significantLines t, isEndMarker line = true) ↔ HasEnd t :=
  exists_significant_iff rfl

theorem any_isLineMarker_iff :
    (significantLines t).any isLineMarker = true ↔ HasLineSection t := by
  rw [List.any_eq_true]
  exact exists_significant_iff rfl

theorem hasLineSection_append_iff (p s : Text) :
    HasLineSection (p ++ '\n' :: s) ↔ HasLineSection p ∨ HasLineSection s := by
  rw [← any_isLineMarker_iff, significantLines_append_newline, List.any_append, Bool.or_eq_true,
    any_isLineMarker_iff, any_isLineMarker_iff]

/-- No significant line behind an end is read. -/
theorem linesBeforeEnd_of_append {rest : List Text} (h : HasEnd p)
    (hlines : significantLines t = significantLines p ++ rest) :
    linesBeforeEnd t = linesBeforeEnd p := by
  obtain ⟨line, hline, hend⟩ := exists_end_iff.mpr h
  rw [linesBeforeEnd, hlines, takeWhile_append_of_mem hline (by simp [hend]), linesBeforeEnd]

theorem linesBeforeEnd_append (h : HasEnd p) (s : Text) :
    linesBeforeEnd (p ++ '\n' :: s) = linesBeforeEnd p :=
  linesBeforeEnd_of_append h (significantLines_append_newline p s)

theorem entries_append (h : HasEnd p) (s : Text) : entries (p ++ '\n' :: s) = entries p := by
  rw [entries, linesBeforeEnd_append h, entries]

theorem records_append (h : HasEnd p) {s : Text} (hsame : HasLineSection s → HasLineSection p) :
    records (p ++ '\n' :: s) = records p := by
  have hany : (significantLines (p ++ '\n' :: s)).any isLineMarker =
      (significantLines p).any isLineMarker := by
    rw [Bool.eq_iff_iff, any_isLineMarker_iff, any_isLineMarker_iff, hasLineSection_append_iff]
    exact or_iff_left_of_imp hsame
  rw [records, linesBeforeEnd_append h, hany, records]

theorem Layout.marker_mem_lines {l : Layout} {part : Section} (h : part ∈ l.parts) :
    part.marker ∈ l.lines :=
  List.mem_append_right _ (List.mem_flatMap.mpr ⟨part, h, List.mem_cons_self⟩)

/-- Sections of records that are all marked behind the end leave a text without records. -/
theorem records_eq_nil (hsection : HasLineSection t)
    (hnone : ∀ line ∈ linesBeforeEnd t, isLineMarker line = false) : records t = [] := by
  rw [records, if_pos (any_isLineMarker_iff.mpr hsection), List.nil_append]
  refine List.eq_nil_iff_forall_not_mem.mpr fun r hr => ?_
  obtain ⟨before, part, after, hparts, hmem⟩ := mem_flatMapAfter.mp hr
  have hpart : part ∈ (Layout.ofLines (linesBeforeEnd t)).parts := by
    rw [hparts]
    exact List.mem_append_right _ List.mem_cons_self
  have hmarker := Layout.marker_mem_lines hpart
  rw [Layout.lines_ofLines] at hmarker
  rw [Section.records, if_neg (by simp [hnone _ hmarker])] at hmem
  cases hmem

/-- Behind its end a text can be continued in any way that does not bring in the first marker of a
line section.  If it does, the table is empty. -/
theorem parse_append_of_hasEnd (h : HasEnd p) (s : Text) (template : Template) :
    parse (p ++ '\n' :: s) template =
      if HasLineSection s ∧ ¬HasLineSection p then [] else parse p template := by
  split
  next hnew =>
    obtain ⟨hs, hp⟩ := hnew
    have hrecords : records (p ++ '\n' :: s) = [] := by
      refine records_eq_nil ((hasLineSection_append_iff p s).mpr (.inr hs)) fun line hline => ?_
      rw [linesBeforeEnd_append h] at hline
      by_contra hmarker
      have hany := List.any_eq_true.mpr
        ⟨line, List.takeWhile_subset _ hline, Bool.of_not_eq_false hmarker⟩
      exact hp (any_isLineMarker_iff.mp hany)
    rw [parse_eq_filter, hrecords, List.filter_nil]
  next hold =>
    have hsame : HasLineSection s → HasLineSection p := fun hs => by
      by_contra hp
      exact hold ⟨hs, hp⟩
    rw [parse_eq_filter, parse_eq_filter, entries_append h, records_append h hsame]

/-- Records and a whole line section behind the end, in a text that has a line section. -/
theorem parse_append_sections :
    HasEnd "*L\n1:10\n *Ex".toList ∧
      parse ("*L\n1:10\n *Ex".toList ++ '\n' :: "2:20\n*L\n3:30\n".toList) ⟨"a.jsp".toList⟩ =
        [.of 1 1 10 1 none] := by
  have hend : HasEnd "*L\n1:10\n *Ex".toList := by decide +kernel
  refine ⟨hend, ?_⟩
  rw [parse_append_of_hasEnd hend, if_neg (by decide +kernel)]
  decide +kernel

/-- The marker of a line section behind the end takes the records of a list away. -/
theorem not_forall_parse_append :
    ¬ ∀ (p s : Text) (template : Template), HasEnd p →
      parse (p ++ '\n' :: s) template = parse p template := by
  intro h
  have hlist := h "1:10\n*E".toList "*L".toList ⟨"a.jsp".toList⟩ (by decide +kernel)
  revert hlist
  decide +kernel

end Stratum

end TemplateMap
