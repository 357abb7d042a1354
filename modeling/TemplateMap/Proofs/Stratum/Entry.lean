import TemplateMap.Proofs.Stratum.Record
import TemplateMap.Proofs.Template
import TemplateMap.Proofs.Text.Bytewise
import TemplateMap.Stratum

/-! File entries: the form of the lines that write them, and what becomes of an entry when its line
is read with one character for each of its bytes.  The entry keeps its id, and its name is read in
that way too, unless the reader skips white space before the name that is not ASCII. -/

namespace TemplateMap

namespace Stratum.FileEntry

variable {e : FileEntry} {hasPath : Bool} {line tail : Text} {template : Template}

/-! ### The lines that write entries -/

/-- What stands before the id of an entry: nothing, or a plus sign and white space. -/
inductive IsMark : Bool → Text → Prop
  | nothing : IsMark false []
  | plus (gap : Text) (blank : ∀ c ∈ gap, isBlank c = true) : IsMark true ('+' :: gap)

/-- The parts of a line besides the id of the entry that it writes: a mark in front, and then a
character of white space and the name, with or without more white space around it. -/
structure IsWritten (e : FileEntry) (hasPath : Bool) (mark : Text) (c : Char) (rest : Text) :
    Prop where
  mark : IsMark hasPath mark
  id : isFileId e.id = true
  blank : isBlank c = true
  name : rest.trim = e.name
  nonempty : e.name ≠ []
  path : e.path = none

theorem exists_isWritten (h : ofLine? line = some (e, hasPath)) :
    ∃ mark c rest, e.IsWritten hasPath mark c rest ∧ line = mark ++ (e.id ++ c :: rest) := by
  unfold ofLine? at h
  split at h
  next hasPath' unmarked hline =>
    obtain ⟨mark, hmark, rfl⟩ : ∃ mark, IsMark hasPath' mark ∧ line = mark ++ unmarked := by
      split at hline
      next text =>
        obtain ⟨rfl, rfl⟩ := Prod.mk.inj hline
        exact ⟨_, .plus (text.takeWhile isBlank) fun _ => List.mem_takeWhile_imp,
          congrArg ('+' :: ·) List.takeWhile_append_dropWhile.symm⟩
      next =>
        obtain ⟨rfl, rfl⟩ := Prod.mk.inj hline
        exact ⟨[], .nothing, rfl⟩
    split at h
    next => cases h
    next id name hcut =>
      obtain ⟨-, c, hc, rfl⟩ := Text.cut?_eq_some_iff.mp hcut
      split at h
      next hvalid =>
        obtain ⟨rfl, rfl⟩ := Prod.mk.inj (Option.some.inj h)
        rw [Bool.and_eq_true, Bool.not_eq_true', List.isEmpty_eq_false_iff] at hvalid
        exact ⟨mark, c, name, ⟨hmark, hvalid.1, hc, rfl, hvalid.2, rfl⟩, rfl⟩
      next => cases h

theorem IsWritten.ofLine? {mark rest : Text} {c : Char} (h : e.IsWritten hasPath mark c rest) :
    ofLine? (mark ++ (e.id ++ c :: rest)) = some (e, hasPath) := by
  obtain ⟨id, name, path⟩ := e
  obtain rfl : path = none := h.path
  obtain rfl : rest.trim = name := h.name
  obtain ⟨x, others, hid, hx⟩ : ∃ x others, id = x :: others ∧ isIdChar x = true :=
    exists_cons_of_isFileId h.id
  have hcut : Text.cut? isBlank (id ++ c :: rest) = some (id, rest) :=
    Text.cut?_append_cons (fun y hy => isBlank_of_isIdChar (isIdChar_of_isFileId h.id y hy))
      h.blank rest
  have hvalid : (isFileId id && !List.isEmpty rest.trim) = true := by
    simp [h.id, h.nonempty]
  cases h.mark with
  | nothing =>
    have hplus : x ≠ '+' := by
      rintro rfl
      cases hx
    unfold FileEntry.ofLine?
    split
    next hline =>
      split at hline
      next heq => exact absurd (List.cons.inj (hid ▸ heq)).1 hplus
      next =>
        obtain ⟨rfl, rfl⟩ := Prod.mk.inj hline
        simp [hcut, hvalid]
  | plus gap hgap =>
    have hstart : Text.trimStart (gap ++ (id ++ c :: rest)) = id ++ c :: rest := by
      rw [Text.trimStart, List.dropWhile_append_of_pos hgap, hid]
      exact List.dropWhile_cons_of_neg (by simp [isBlank_of_isIdChar hx])
    simp [FileEntry.ofLine?, hstart, hcut, hvalid]

/-- A line is an entry exactly when it has this form. -/
theorem ofLine?_eq_some_iff :
    ofLine? line = some (e, hasPath) ↔
      ∃ mark c rest, e.IsWritten hasPath mark c rest ∧ line = mark ++ (e.id ++ c :: rest) := by
  constructor
  · exact exists_isWritten
  · rintro ⟨mark, c, rest, h, rfl⟩
    exact h.ofLine?

/-- In a trimmed line the name stands at the end. -/
theorem IsWritten.split {mark rest : Text} {c : Char} (h : e.IsWritten hasPath mark c rest)
    (hline : IsTrimmed (mark ++ (e.id ++ c :: rest))) :
    mark ++ (e.id ++ c :: rest) = (mark ++ (e.id ++ c :: rest.takeWhile isBlank)) ++ e.name := by
  have hline : IsTrimmed ((mark ++ (e.id ++ [c])) ++ rest) := by simpa using hline
  conv_lhs => rw [← hline.takeWhile_append_trim, h.name]
  simp

/-- White space at the end of a line is not read. -/
theorem ofLine?_append_blank (hblank : ∀ c ∈ tail, isBlank c = true) (line : Text) :
    ofLine? (line ++ tail) = ofLine? line := by
  refine Option.ext fun ⟨e, hasPath⟩ => ?_
  simp only [ofLine?_eq_some_iff]
  constructor
  · rintro ⟨mark, c, rest, h, heq⟩
    have hname : ∀ before, tail ≠ before ++ c :: rest := by
      rintro before rfl
      refine h.nonempty (h.name ▸ Text.trim_eq_nil_iff.mpr fun x hx => hblank x ?_)
      exact List.mem_append_right before (List.mem_cons_of_mem c hx)
    rw [← List.append_assoc, List.append_eq_append_iff] at heq
    rcases heq with ⟨before, -, htail⟩ | ⟨between, hline, hrest⟩
    · exact absurd htail (hname before)
    cases between with
    | nil => exact absurd hrest.symm (hname [])
    | cons d kept =>
      obtain ⟨rfl, rfl⟩ := List.cons.inj hrest
      refine ⟨mark, c, kept, { h with name := ?_ }, by rw [hline, List.append_assoc]⟩
      exact (Text.trim_append_right hblank kept).symm.trans h.name
  · rintro ⟨mark, c, rest, h, rfl⟩
    refine ⟨mark, c, rest ++ tail, { h with name := ?_ }, by simp⟩
    rw [Text.trim_append_right hblank, h.name]

/-! ### Entries byte by byte -/

/-- What becomes of an entry whose line is read with one character for each byte. -/
def bytewise (e : FileEntry) : FileEntry :=
  { e with name := e.name.bytewise, path := e.path.map Text.bytewise }

/-- If the line is an entry, all that stands before its name is ASCII. -/
def SkipsAscii (line : Text) : Prop :=
  ∀ e hasPath, ofLine? line = some (e, hasPath) → ∃ head, IsAscii head ∧ line = head ++ e.name

theorem IsWritten.ascii_or_blank {mark rest gap : Text} {c : Char}
    (h : e.IsWritten hasPath mark c rest) (hgap : ∀ x ∈ gap, isBlank x = true) :
    ∀ x ∈ mark ++ (e.id ++ c :: gap), x.toNat < 128 ∨ isBlank x = true := by
  have hmark : ∀ x ∈ mark, x.toNat < 128 ∨ isBlank x = true := by
    cases h.mark with
    | nothing => nofun
    | plus gap hgap =>
      exact List.forall_mem_cons.mpr ⟨.inl (by decide), fun x hx => .inr (hgap x hx)⟩
  have hid := ascii_of_isIdChar (isIdChar_of_isFileId h.id)
  simp only [List.forall_mem_append, List.forall_mem_cons]
  exact ⟨hmark, fun x hx => .inl (hid x hx), .inr h.blank, fun x hx => .inr (hgap x hx)⟩

/-- A trimmed line skips only ASCII if all of its white space is ASCII. -/
theorem skipsAscii_of_blankAscii (hline : IsTrimmed line) (h : line.BlankAscii) :
    SkipsAscii line := by
  intro e hasPath hentry
  obtain ⟨mark, c, rest, hwritten, rfl⟩ := exists_isWritten hentry
  have hsplit := hwritten.split hline
  rw [hsplit] at h
  refine ⟨_, fun x hx => ?_, hsplit⟩
  rcases hwritten.ascii_or_blank (fun _ => List.mem_takeWhile_imp) x hx with hascii | hblank
  · exact hascii
  · exact h x (List.mem_append_left _ hx) hblank

/-- A line that is an entry byte by byte is one. -/
theorem exists_of_ofLine?_ofText (hline : IsTrimmed line)
    (h : ofLine? (Latin1.ofText line) = some (e, hasPath)) :
    ∃ own, ofLine? line = some (own, hasPath) := by
  obtain ⟨mark, c, rest, hwritten, hbytes⟩ := exists_isWritten h
  have hsplit : Latin1.ofText line = (mark ++ (e.id ++ [c])) ++ rest := by simpa using hbytes
  have hhead := hwritten.ascii_or_blank (List.forall_mem_nil fun x => isBlank x = true)
  obtain ⟨-, name, rfl, -⟩ := Latin1.exists_append_of_ofText hhead hsplit
  -- The name is not blank either, for then the line would not be trimmed.
  have hname : name.trim ≠ [] := fun hnil => by
    have hblank := Text.trim_eq_nil_iff.mp hnil
    have hline : IsTrimmed ((mark ++ e.id) ++ c :: name) := by simpa using hline
    cases hline.eq_nil_of_blank_suffix (List.forall_mem_cons.mpr ⟨hwritten.blank, hblank⟩)
  have hown : IsWritten ⟨e.id, name.trim, none⟩ hasPath mark c name :=
    ⟨hwritten.mark, hwritten.id, hwritten.blank, rfl, hname, rfl⟩
  exact ⟨_, by simpa using hown.ofLine?⟩

/-- An entry before whose name only ASCII is skipped is one byte by byte. -/
theorem ofLine?_ofText (hline : IsTrimmed line) (hskip : SkipsAscii line)
    (h : ofLine? line = some (e, hasPath)) :
    ofLine? (Latin1.ofText line) = some (e.bytewise, hasPath) := by
  obtain ⟨head, hhead, heq⟩ := hskip e hasPath h
  obtain ⟨mark, c, rest, hwritten, rfl⟩ := exists_isWritten h
  have hsplit := hwritten.split hline
  have hascii := List.append_cancel_right (heq.symm.trans hsplit) ▸ hhead
  have hname : e.name.bytewise ≠ [] := by
    rw [Ne, ← hwritten.name, Text.bytewise_eq_nil_iff (Text.isTrimmed_trim rest), hwritten.name]
    exact hwritten.nonempty
  have hbytes : e.bytewise.IsWritten hasPath mark c
      (rest.takeWhile isBlank ++ Latin1.ofText e.name) :=
    { mark := hwritten.mark
      id := hwritten.id
      blank := hwritten.blank
      name := Text.trim_append_left (fun _ => List.mem_takeWhile_imp) _
      nonempty := hname
      path := by simp [bytewise, hwritten.path] }
  rw [hsplit, Latin1.ofText_append, Latin1.ofText_of_ascii hascii]
  simpa [bytewise] using hbytes.ofLine?

theorem ofLine?_bytewise (hline : IsTrimmed line) (hskip : SkipsAscii line) :
    ofLine? line.bytewise = (ofLine? line).map fun (e, hasPath) => (e.bytewise, hasPath) := by
  obtain ⟨tail, hsplit, htail, -⟩ := Text.exists_bytewise_append hline
  rw [← ofLine?_append_blank (fun c hc => (htail c hc).1), ← hsplit]
  cases hentry : ofLine? line with
  | some entry =>
    obtain ⟨e, hasPath⟩ := entry
    exact ofLine?_ofText hline hskip hentry
  | none =>
    refine Option.eq_none_iff_forall_ne_some.mpr fun ⟨e, hasPath⟩ hbytes => ?_
    obtain ⟨own, hown⟩ := exists_of_ofLine?_ofText hline hbytes
    cases hentry.symm.trans hown

/-! ### Names byte by byte -/

/-- The name and the path of the entry are trimmed. -/
def Trimmed (e : FileEntry) : Prop := IsTrimmed e.name ∧ ∀ path ∈ e.path, IsTrimmed path

theorem trimmed_of_ofLine? (h : ofLine? line = some (e, hasPath)) : e.Trimmed := by
  obtain ⟨mark, c, rest, hwritten, -⟩ := exists_isWritten h
  exact ⟨hwritten.name ▸ Text.isTrimmed_trim rest, hwritten.path ▸ nofun⟩

/-- A template with an ASCII name does not tell a name from its bytes. -/
theorem matchName_bytewise (htemplate : IsAscii template.name) {name : Text}
    (h : IsTrimmed name) : template.matchName name.bytewise = template.matchName name := by
  have hpath : IsTrimmed (name.swap '\\' '/') := h.swap rfl
  by_cases hempty : template.name = []
  · rw [Template.matchName_eq_none hempty, Template.matchName_eq_none hempty]
  have hsuffix : '/' :: template.name <:+ (name.swap '\\' '/').bytewise ↔
      '/' :: template.name <:+ name.swap '\\' '/' :=
    Text.suffix_bytewise_iff hpath (IsAscii.cons_iff.mpr ⟨by decide, htemplate⟩)
      (List.cons_ne_nil _ _)
  simp only [Template.matchName_eq hempty, h.trim_eq, (Text.isTrimmed_bytewise name).trim_eq,
    Text.swap_bytewise (by decide : '\\'.toNat < 128) (by decide : '/'.toNat < 128) rfl,
    Text.bytewise_eq_iff hpath htemplate, hsuffix, Text.occursIn_bytewise hpath htemplate hempty]

theorem matchOf_bytewise (htemplate : IsAscii template.name) (h : e.Trimmed) :
    e.bytewise.matchOf template = e.matchOf template := by
  obtain ⟨id, name, path⟩ := e
  cases path with
  | none => simp [matchOf, bytewise, matchName_bytewise htemplate h.1]
  | some path =>
    simp [matchOf, bytewise, matchName_bytewise htemplate h.1,
      matchName_bytewise htemplate (h.2 path rfl)]

end Stratum.FileEntry

end TemplateMap
