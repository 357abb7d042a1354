import TemplateMap.Proofs.Annotation.Shapes
import TemplateMap.Proofs.Extraction.Comments
import TemplateMap.Proofs.Text.Lines

/-! Annotations as a map of lines.  A template line has the generated line after the first line that
announces it, as far as lines are numbered; so two template lines have different generated lines,
unless both announcements stand at the end of a source with more lines than there are numbers. -/

namespace TemplateMap

namespace Extractor

variable {template : Template} {generated : Text} {lines : List Text} {t t' g : Nat}

/-- The map after some lines. -/
def annotated (template : Template) (lines : List Text) : LineMap :=
  lines.zipIdx.foldl (fun m (line, index) =>
    match Annotation.ofLine? template line with
    | some t => m.setNew t (min (index + 2) lastLine)
    | none => m) []

/-- The first line that announces a template line. -/
def firstAnnouncing? (template : Template) (lines : List Text) (t : Nat) : Option Nat :=
  lines.findIdx? fun line => Annotation.ofLine? template line = some t

theorem annotated_append (template : Template) (lines : List Text) (line : Text) :
    annotated template (lines ++ [line]) =
      match Annotation.ofLine? template line with
      | some t => (annotated template lines).setNew t (min (lines.length + 2) lastLine)
      | none => annotated template lines := by
  rw [annotated, List.zipIdx_append, List.foldl_append, Nat.zero_add]
  rfl

/-- One more line announces a template line first if it announces it and no line before does. -/
theorem firstAnnouncing?_append (template : Template) (lines : List Text) (line : Text) (t : Nat) :
    firstAnnouncing? template (lines ++ [line]) t =
      (firstAnnouncing? template lines t).or
        (if Annotation.ofLine? template line = some t then some lines.length else none) := by
  rw [firstAnnouncing?, List.findIdx?_append, List.findIdx?_singleton]
  simp only [decide_eq_true_eq]
  split <;> simp [firstAnnouncing?]

theorem mem_annotated_iff (template : Template) (lines : List Text) :
    (annotated template lines).Ordered ∧ ∀ t g, (t, g) ∈ annotated template lines ↔
      ∃ index, firstAnnouncing? template lines t = some index ∧ g = min (index + 2) lastLine := by
  induction lines using List.reverseRecOn with
  | nil => exact ⟨LineMap.ordered_nil, fun t g => ⟨nofun, nofun⟩⟩
  | append_singleton lines line ih =>
    obtain ⟨hordered, hmem⟩ := ih
    rw [annotated_append]
    cases hline : Annotation.ofLine? template line with
    | none =>
      refine ⟨hordered, fun t g => ?_⟩
      rw [firstAnnouncing?_append, hline, hmem]
      simp
    | some s =>
      have hs : s ≤ lastLine := Annotation.ofLine?_le hline
      refine ⟨hordered.setNew hs (Nat.min_le_right ..), fun t g => ?_⟩
      rw [hordered.mem_setNew_iff, firstAnnouncing?_append, hline, hmem]
      cases hfirst : firstAnnouncing? template lines t with
      | some index =>
        -- The template line has its pair already, so the new one is not for it.
        have hold : (t, min (index + 2) lastLine) ∈ annotated template lines :=
          (hmem t _).mpr ⟨index, hfirst, rfl⟩
        refine ⟨fun h => ?_, fun h => .inl (by simpa using h)⟩
        rcases h with h | ⟨heq, hnew⟩
        · simpa using h
        · obtain ⟨rfl, -⟩ := Prod.mk.inj heq
          exact absurd hold (hnew _)
      | none =>
        have hnone : ∀ b, (t, b) ∉ annotated template lines := fun b hb => by
          obtain ⟨index, hindex, -⟩ := (hmem t b).mp hb
          exact nomatch hfirst.symm.trans hindex
        constructor
        · rintro (⟨_, ⟨⟩, -⟩ | ⟨heq, -⟩)
          obtain ⟨rfl, rfl⟩ := Prod.mk.inj heq
          exact ⟨lines.length, by simp, rfl⟩
        · rintro ⟨index, hindex, rfl⟩
          obtain ⟨rfl, rfl⟩ : s = t ∧ lines.length = index := by simpa using hindex
          exact .inr ⟨rfl, hnone⟩

/-- A template line has the generated line after the first line that announces it. -/
theorem mem_annotations_iff :
    (t, g) ∈ annotations template generated ↔
      ∃ index, firstAnnouncing? template generated.lines t = some index ∧
        g = min (index + 2) lastLine :=
  (mem_annotated_iff template generated.lines).2 t g

theorem ofLine?_of_firstAnnouncing? {index : Nat}
    (h : firstAnnouncing? template lines t = some index) :
    ∃ hlt : index < lines.length, Annotation.ofLine? template lines[index] = some t := by
  obtain ⟨hlt, hline, -⟩ := List.findIdx?_eq_some_iff_getElem.mp h
  exact ⟨hlt, of_decide_eq_true hline⟩

/-- Two template lines have the same generated line only where the numbers of lines are at their
end. -/
theorem annotations_injective (h : (t, g) ∈ annotations template generated)
    (h' : (t', g) ∈ annotations template generated) :
    t = t' ∨ g = lastLine ∧ lastLine ≤ generated.lines.length := by
  obtain ⟨index, hfirst, hg⟩ := mem_annotations_iff.mp h
  obtain ⟨index', hfirst', hg'⟩ := mem_annotations_iff.mp h'
  obtain ⟨hlt, hline⟩ := ofLine?_of_firstAnnouncing? hfirst
  obtain ⟨hlt', hline'⟩ := ofLine?_of_firstAnnouncing? hfirst'
  by_cases heq : index = index'
  · subst heq
    exact .inl (Option.some.inj (hline.symm.trans hline'))
  · exact .inr (by omega)

/-- A line that begins with a named shape announces the number that its ASCII digits write, if the
file names the template and the number is at most `lastLine`, and nothing otherwise, whatever else
the line holds; a line that begins with none is left to the loose shape.  Each template line has the
generated line after the first line that announces it, or `lastLine` if that is less, so that two
template lines can have the same generated line only if it is `lastLine`, in a source of at least so
many lines. -/
theorem named_annotations (template : Template) :
    (∀ line digits file, Annotation.IsNamed digits file line → ∀ n,
      Annotation.ofLine? template line = some n ↔
        template.matchName file ≠ .none ∧ Stratum.IsNumber digits n) ∧
    (∀ line, (∀ digits file, ¬ Annotation.IsNamed digits file line) → ∀ n,
      Annotation.ofLine? template line = some n ↔
        Annotation.namesExtension template line = true ∧
          ∃ digits, Annotation.looseMarker? line = some digits ∧ Stratum.IsNumber digits n) ∧
    ∀ generated : Text,
      (∀ t g, (t, g) ∈ annotations template generated ↔
        ∃ index, firstAnnouncing? template generated.lines t = some index ∧
          g = min (index + 2) lastLine) ∧
      ∀ t t' g, (t, g) ∈ annotations template generated →
        (t', g) ∈ annotations template generated →
        t = t' ∨ g = lastLine ∧ lastLine ≤ generated.lines.length :=
  ⟨fun _ _ _ hnamed _ => hnamed.ofLine?_eq_some_iff template,
    fun _ hunnamed _ => Annotation.ofLine?_eq_some_iff_of_unnamed hunnamed template, fun _ =>
    ⟨fun _ _ => mem_annotations_iff, fun _ _ _ => annotations_injective⟩⟩

/-- A line of a named shape above one of the loose shape. -/
def bothLines : Text := Annotation.labelledLine ++ '\n' :: Annotation.looseLine

/-- The file of a named shape decides whether the number in it counts, whatever loose shape is
behind it; a line of the loose shape counts with the extension of the template. -/
theorem bothLines_named_annotations :
    Annotation.IsNamed ['7'] "/a.jsp".toList Annotation.labelledLine ∧
    Annotation.ofLine? ⟨"a.jsp".toList⟩ Annotation.labelledLine = some 7 ∧
    (∀ n, Annotation.ofLine? ⟨"b.jsp".toList⟩ Annotation.labelledLine ≠ some n) ∧
    Annotation.ofLine? ⟨"a.jsp".toList⟩ Annotation.looseLine = some 5 ∧
    (7, 2) ∈ annotations ⟨"a.jsp".toList⟩ bothLines ∧
    (5, 3) ∈ annotations ⟨"a.jsp".toList⟩ bothLines ∧
    ∀ t, (t, 3) ∈ annotations ⟨"a.jsp".toList⟩ bothLines → 5 = t := by
  obtain ⟨hnamed, hunnamed, hmap⟩ := named_annotations ⟨"a.jsp".toList⟩
  obtain ⟨hforeign, -, -⟩ := named_annotations ⟨"b.jsp".toList⟩
  obtain ⟨hmem, hinjective⟩ := hmap bothLines
  have hlabelled := Annotation.labelledLine_isNamed
  have hseven : Stratum.IsNumber ['7'] 7 := Stratum.number?_eq_some_iff.mp (by decide)
  have hfive : Stratum.IsNumber ['5'] 5 := Stratum.number?_eq_some_iff.mp (by decide)
  have hfirst := (hnamed _ _ _ hlabelled 7).mpr ⟨by decide, hseven⟩
  have hsecond := (hunnamed _ Annotation.looseLine_unnamed 5).mpr
    ⟨by decide +kernel, ['5'], by decide +kernel, hfive⟩
  have hlast : (5, 3) ∈ annotations ⟨"a.jsp".toList⟩ bothLines :=
    (hmem 5 3).mpr ⟨1, by decide +kernel, by decide⟩
  refine ⟨hlabelled, hfirst, fun n hn => ?_, hsecond,
    (hmem 7 2).mpr ⟨0, by decide +kernel, by decide⟩, hlast, fun t ht => ?_⟩
  · exact ((hforeign _ _ _ hlabelled n).mp hn).1 (by decide)
  · exact (hinjective 5 t 3 hlast ht).resolve_right fun h => absurd h.1 (by decide)

/-- The value of a decimal digit: how far it is from the zero of its script. -/
def digitValue (c : Char) : Nat :=
  match decimalDigitRanges.find? fun (low, high) => low ≤ c.toNat && c.toNat ≤ high with
  | some (low, _) => (c.toNat - low) % 10
  | none => 0

/-- The number that decimal digits of any script write. -/
def scriptValue (digits : Text) : Nat := digits.foldl (fun n c => 10 * n + digitValue c) 0

/-- Lines that announce nothing put off the first announcement. -/
theorem firstAnnouncing?_replicate_append {line : Text}
    (h : Annotation.ofLine? template line ≠ some t) (n : Nat) (lines : List Text) :
    firstAnnouncing? template (List.replicate n line ++ lines) t =
      (firstAnnouncing? template lines t).map (· + n) := by
  rw [firstAnnouncing?, List.findIdx?_append, List.findIdx?_replicate, if_neg (by simp [h]),
    Option.none_or, List.length_replicate]
  rfl

/-- Two announcements behind empty lines. -/
def farCode (n : Nat) : Text :=
  List.replicate n '\n' ++ "//line 1 \"a.jsp\"\n//line 2 \"a.jsp\"\n".toList

theorem mem_annotations_farCode (n : Nat) :
    (1, min (n + 2) lastLine) ∈ annotations ⟨"a.jsp".toList⟩ (farCode n) ∧
    (2, min (n + 3) lastLine) ∈ annotations ⟨"a.jsp".toList⟩ (farCode n) := by
  have hlines : Text.lines (farCode n) =
      List.replicate n [] ++ ["//line 1 \"a.jsp\"".toList, "//line 2 \"a.jsp\"".toList] :=
    Text.lines_replicate_append n _
  have hempty : Annotation.ofLine? ⟨"a.jsp".toList⟩ [] = none := by decide +kernel
  have hannounced : ∀ t index, firstAnnouncing? ⟨"a.jsp".toList⟩
      ["//line 1 \"a.jsp\"".toList, "//line 2 \"a.jsp\"".toList] t = some index →
      (t, min (index + n + 2) lastLine) ∈ annotations ⟨"a.jsp".toList⟩ (farCode n) := by
    intro t index hindex
    refine mem_annotations_iff.mpr ⟨index + n, ?_, rfl⟩
    rw [hlines, firstAnnouncing?_replicate_append (by rw [hempty]; exact nofun), hindex]
    rfl
  have hfirst := hannounced 1 0 (by decide +kernel)
  have hsecond := hannounced 2 1 (by decide +kernel)
  rw [Nat.zero_add] at hfirst
  rw [Nat.add_comm 1 n] at hsecond
  exact ⟨hfirst, hsecond⟩

/-- Digits of another script than ASCII announce nothing, and two template lines can have the same
generated line, behind as many lines as there are numbers. -/
theorem not_forall_named_annotations :
    (¬ ∀ (template : Template) (line digits file : Text), Annotation.IsNamed digits file line →
      template.matchName file ≠ .none → scriptValue digits ≤ lastLine →
      Annotation.ofLine? template line = some (scriptValue digits)) ∧
    ¬ ∀ (template : Template) (generated : Text) (t t' g : Nat),
      (t, g) ∈ annotations template generated → (t', g) ∈ annotations template generated →
      t = t' := by
  refine ⟨fun h => ?_, fun h => ?_⟩
  · let head : Text := [] ++ (['/', '/'] ++ ([] ++ ("line".toList ++ ([' '] ++ ['٣']))))
    have hhead : Annotation.IsHead ['/', '/'] ['٣'] head :=
      .intro (by decide) (by decide) (by decide) (by decide) (by decide) (by decide)
        (List.forall_mem_singleton.mpr (by decide))
    have hnamed : Annotation.IsNamed ['٣'] "a.jsp".toList
        (head ++ ([' '] ++ '"' :: ("a.jsp".toList ++ '"' :: []))) :=
      .quoted hhead (by decide) (by decide) (by decide)
    have hline := h ⟨"a.jsp".toList⟩ _ _ _ hnamed (by decide) (by decide)
    revert hline
    decide +kernel
  · obtain ⟨hfirst, hsecond⟩ := mem_annotations_farCode (lastLine - 2)
    have hlast : min (lastLine - 2 + 2) lastLine = lastLine := by decide
    have hpast : min (lastLine - 2 + 3) lastLine = lastLine := by decide
    rw [hlast] at hfirst
    rw [hpast] at hsecond
    exact absurd (h _ _ 1 2 _ hfirst hsecond) (by decide)

end Extractor

end TemplateMap
