import TemplateMap.Proofs.Text.Lines
import TemplateMap.Proofs.Text.Occurrence

/-! Indentation: a text with a margin before each of its lines.  Margins of white space change no
line up to white space at its ends, and neither make nor hide an occurrence of a text without white
space. -/

namespace TemplateMap

/-- A text that is not empty and has no white space. -/
structure IsToken (t : Text) : Prop where
  nonempty : t ≠ []
  solid : ∀ c ∈ t, isBlank c = false

instance : DecidablePred IsToken := fun t =>
  decidable_of_iff (t ≠ [] ∧ t.all fun c => !isBlank c)
    ⟨fun h => ⟨h.1, by simpa using h.2⟩, fun h => ⟨h.nonempty, by simpa using h.solid⟩⟩

/-- A margin of spaces and tabs. -/
def IsMargin (t : Text) : Prop := ∀ c ∈ t, c = ' ' ∨ c = '\t'

theorem IsToken.newline_notMem {t : Text} (h : IsToken t) : '\n' ∉ t :=
  fun hmem => nomatch h.solid _ hmem

theorem IsToken.isTrimmed {t : Text} (h : IsToken t) : IsTrimmed t where
  head c hc := h.solid c (List.mem_of_head? hc)
  last c hc := h.solid c (List.mem_of_getLast? hc)

namespace IsMargin

variable {t : Text}

theorem blank (h : IsMargin t) : ∀ c ∈ t, isBlank c = true := by
  intro c hc
  rcases h c hc with rfl | rfl <;> rfl

theorem newline_notMem (h : IsMargin t) : '\n' ∉ t := by
  intro hc
  rcases h _ hc with hc | hc <;> cases hc

theorem notMem_token (h : IsMargin t) {token : Text} (htoken : IsToken token) :
    ∀ c ∈ t, c ∉ token := by
  intro c hc hmem
  exact Bool.false_ne_true ((htoken.solid c hmem).symm.trans (h.blank c hc))

end IsMargin

namespace Text

/-- A text with a margin before each line, which depends on the line's number. -/
def indented (margin : Nat → Text) (t : Text) : Text :=
  ((pieces t).mapIdx fun n piece => margin n ++ piece).flatten

variable {margin : Nat → Text} {line t : Text}

@[simp] theorem indented_nil : indented margin [] = [] := rfl

theorem indented_line (hempty : line ≠ []) (h : '\n' ∉ line) :
    indented margin line = margin 0 ++ line := by
  simp [indented, pieces_line hempty h]

theorem indented_append (h : '\n' ∉ line) (rest : Text) :
    indented margin (line ++ '\n' :: rest) =
      (margin 0 ++ line) ++ '\n' :: indented (fun n => margin (n + 1)) rest := by
  simp [indented, pieces_append h, List.mapIdx_cons]

theorem mem_indented {c : Char} (h : c ∈ indented margin t) : c ∈ t ∨ ∃ n, c ∈ margin n := by
  obtain ⟨indentedPiece, hpiece, hc⟩ := List.mem_flatten.mp h
  obtain ⟨n, hn, rfl⟩ := List.mem_mapIdx.mp hpiece
  rcases List.mem_append.mp hc with hc | hc
  · exact .inr ⟨n, hc⟩
  · rw [← flatten_pieces t]
    exact .inl (List.mem_flatten.mpr ⟨_, List.getElem_mem hn, hc⟩)

/-- The first margin is the first thing in an indented text. -/
theorem indented_eq_append (margin : Nat → Text) (hempty : t ≠ []) :
    indented margin t = margin 0 ++ indented (Function.update margin 0 []) t := by
  obtain ⟨c, t, rfl⟩ := List.exists_cons_of_ne_nil hempty
  obtain ⟨piece, rest, hpieces⟩ := exists_pieces_cons c t
  simp [indented, hpieces, List.mapIdx_cons]

/-- The lines of an indented text are those of the text, each after its margin. -/
theorem pieces_indented (h : ∀ n, IsMargin (margin n)) (t : Text) :
    pieces (indented margin t) = (pieces t).mapIdx fun n piece => margin n ++ piece := by
  induction t using line_induction generalizing margin with
  | nil => rfl
  | last line hempty hline =>
    have hnew : '\n' ∉ margin 0 ++ line := by simp [(h 0).newline_notMem, hline]
    rw [indented_line hempty hline, pieces_line (by simp [hempty]) hnew,
      pieces_line hempty hline]
    rfl
  | line line rest hline ih =>
    have hnew : '\n' ∉ margin 0 ++ line := by simp [(h 0).newline_notMem, hline]
    rw [indented_append hline, pieces_append hnew, ih fun n => h (n + 1), pieces_append hline]
    simp [List.mapIdx_cons]

/-- A margin changes no line up to white space at its ends. -/
theorem trim_pieces_indented (h : ∀ n, IsMargin (margin n)) (t : Text) :
    (pieces (indented margin t)).map trim = (pieces t).map trim := by
  rw [pieces_indented h]
  refine List.ext_getElem (by simp) fun n _ _ => ?_
  simp [trim_append_left (h n).blank]

end Text

variable {margin : Nat → Text} {token t : Text}

/-- A text without white space that begins a text still does so when all lines but the first are
indented. -/
theorem IsToken.prefix_indented (h : IsToken token) (ht : token <+: t) :
    token <+: Text.indented (Function.update margin 0 []) t := by
  induction t using Text.line_induction with
  | nil => exact ht
  | last line hempty hline => simpa [Text.indented_line hempty hline] using ht
  | line line rest hline =>
    rw [prefix_append_cons_iff h.newline_notMem] at ht
    rw [Text.indented_append hline]
    simpa using ht.trans (List.prefix_append _ _)

/-- A text without white space that first occurs at the end of a text does so in the indented text
too. -/
theorem IsToken.endsAtFirst_indented (h : IsToken token) (hmargin : ∀ n, IsMargin (margin n))
    (ht : EndsAtFirst token t) : EndsAtFirst token (Text.indented margin t) := by
  induction t using Text.line_induction generalizing margin with
  | nil => exact ht
  | last line hempty hline =>
    rw [Text.indented_line hempty hline]
    exact endsAtFirst_append_left h.nonempty ((hmargin 0).notMem_token h) ht
  | line line rest hline ih =>
    obtain ⟨hnone, hrest⟩ := (endsAtFirst_append_cons_iff h.nonempty h.newline_notMem).mp ht
    rw [Text.indented_append hline, endsAtFirst_append_cons_iff h.nonempty h.newline_notMem,
      firstOccurrence?_append_left h.nonempty ((hmargin 0).notMem_token h), hnone]
    exact ⟨rfl, ih (fun n => hmargin (n + 1)) hrest⟩

end TemplateMap
