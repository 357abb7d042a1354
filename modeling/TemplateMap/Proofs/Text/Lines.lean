import TemplateMap.Proofs.Text.Trim

/-! Lines: a text taken apart at its line feeds, and the lines of a text up to white space at their
ends. -/

namespace TemplateMap.Text

variable {line rest t : Text}

/-- To prove something of every text, prove it of a last line and of a line before a text. -/
theorem line_induction {motive : Text → Prop} (nil : motive [])
    (last : ∀ line, line ≠ [] → '\n' ∉ line → motive line)
    (line : ∀ line rest, '\n' ∉ line → motive rest → motive (line ++ '\n' :: rest))
    (t : Text) : motive t :=
  if hnewline : '\n' ∈ t then by
    obtain ⟨first, rest, rfl, hfirst⟩ := List.eq_append_cons_of_mem hnewline
    exact line first rest hfirst (line_induction nil last line rest)
  else if hempty : t = [] then hempty ▸ nil
  else last t hempty hnewline
termination_by t.length

@[simp] theorem pieces_nil : pieces [] = [] := rfl

theorem pieces_append (h : '\n' ∉ line) (rest : Text) :
    pieces (line ++ '\n' :: rest) = (line ++ ['\n']) :: pieces rest := by
  induction line with
  | nil => rfl
  | cons c line ih =>
    rw [List.mem_cons, not_or] at h
    rw [List.cons_append, pieces, if_neg (Ne.symm h.1), ih h.2]
    rfl

theorem pieces_line (hempty : line ≠ []) (h : '\n' ∉ line) : pieces line = [line] := by
  induction line with
  | nil => exact absurd rfl hempty
  | cons c line ih =>
    rw [List.mem_cons, not_or] at h
    rw [pieces, if_neg (Ne.symm h.1)]
    cases line with
    | nil => rfl
    | cons d line => rw [ih (List.cons_ne_nil d line) h.2]

/-- The pieces joined are the text. -/
theorem flatten_pieces (t : Text) : (pieces t).flatten = t := by
  induction t using line_induction with
  | nil => rfl
  | last line hempty h => simp [pieces_line hempty h]
  | line line rest h ih => simp [pieces_append h, ih]

/-- The first piece begins with the first character. -/
theorem exists_pieces_cons (c : Char) (t : Text) : ∃ p ps, pieces (c :: t) = (c :: p) :: ps := by
  rw [pieces]
  split
  · exact ⟨_, _, rfl⟩
  · split
    · exact ⟨_, _, rfl⟩
    · exact ⟨_, _, rfl⟩

/-- A line feed cuts the pieces of a text in two. -/
theorem pieces_append_newline (t rest : Text) :
    pieces (t ++ '\n' :: rest) = pieces (t ++ ['\n']) ++ pieces rest := by
  induction t using line_induction with
  | nil => rfl
  | last line hempty h => rw [pieces_append h, pieces_append h, pieces_nil]; rfl
  | line line rest' h ih =>
    simp only [List.append_assoc, List.cons_append, pieces_append h]
    rw [ih]

/-- The text is empty or its last line is ended, so what is put behind it begins with a new line. -/
def IsWhole (t : Text) : Prop := ∀ c ∈ t.getLast?, c = '\n'

instance : DecidablePred IsWhole := fun t =>
  decidable_of_iff (t.getLast?.all fun c => c = '\n') (by
    rw [IsWhole]
    cases t.getLast? <;> simp)

theorem pieces_append_of_isWhole {before : Text} (h : IsWhole before) (rest : Text) :
    pieces (before ++ rest) = pieces before ++ pieces rest := by
  rcases List.eq_nil_or_concat before with rfl | ⟨lines, c, rfl⟩
  · rfl
  · obtain rfl : c = '\n' := h c (by simp)
    rw [List.concat_eq_append, List.append_assoc]
    exact pieces_append_newline lines rest

/-- What ends a line before the rest of a text: a line feed, after a carriage return or not, or
nothing where nothing follows. -/
inductive IsEnding : Text → Text → Prop
  | feed (rest : Text) : IsEnding ['\n'] rest
  | returnFeed (rest : Text) : IsEnding ['\r', '\n'] rest
  | missing : IsEnding [] []

/-- A line ending is a line feed, with a carriage return before it or not. -/
theorem exists_dropLineEnd_append (piece : Text) :
    ∃ ending, dropLineEnd piece ++ ending = piece ∧ ∀ c ∈ ending, c = '\r' ∨ c = '\n' := by
  unfold dropLineEnd
  split
  next rest hpiece =>
    rw [List.reverse_eq_iff.mp hpiece]
    unfold dropCarriageReturn
    split
    next line hline =>
      rw [List.reverse_reverse] at hline
      exact ⟨['\r', '\n'], by simp [hline], by simp⟩
    next => exact ⟨['\n'], by simp, by simp⟩
  next => exact ⟨[], by simp, nofun⟩

theorem mem_of_mem_lines {c : Char} (hline : line ∈ t.lines) (hc : c ∈ line) : c ∈ t := by
  obtain ⟨piece, hpiece, rfl⟩ := List.mem_map.mp hline
  obtain ⟨ending, hsplit, -⟩ := exists_dropLineEnd_append piece
  rw [← flatten_pieces t]
  exact List.mem_flatten.mpr ⟨piece, hpiece, hsplit ▸ List.mem_append_left ending hc⟩

/-- Line feeds before a text are so many empty lines before its lines. -/
theorem lines_replicate_append (n : Nat) (t : Text) :
    lines (List.replicate n '\n' ++ t) = List.replicate n [] ++ lines t := by
  induction n with
  | zero => rfl
  | succ n ih =>
    rw [List.replicate_succ, List.replicate_succ, List.cons_append, List.cons_append, ← ih, lines,
      pieces, if_pos rfl]
    rfl

/-- A line ending is white space. -/
theorem trim_dropLineEnd (piece : Text) : (dropLineEnd piece).trim = piece.trim := by
  obtain ⟨ending, hpiece, hending⟩ := exists_dropLineEnd_append piece
  have hblank : ∀ c ∈ ending, isBlank c = true := by
    intro c hc
    rcases hending c hc with rfl | rfl <;> rfl
  conv_rhs => rw [← hpiece, trim_append_right hblank]

end TemplateMap.Text
