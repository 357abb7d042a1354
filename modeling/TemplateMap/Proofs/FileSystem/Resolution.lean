import Mathlib.Logic.Basic
import TemplateMap.FileSystem

/-! Paths with the same components lead to the same place, as far as both lead anywhere: they can
differ only in what a slash or a dot at the end asks of the place.  So where no file changes without
its time, equal times at two such paths mean equal contents; a file that is written over with another
time is such a change. -/

namespace TemplateMap

namespace Path

/-- A piece of a path that is no step. -/
def Idle (piece : Text) : Prop := piece = [] ∨ piece = ['.']

instance : DecidablePred Idle := fun _ => inferInstanceAs (Decidable (_ ∨ _))

/-- Whether the last of the pieces is no step, but only asks for a directory. -/
def EndsIdle (parts : List Text) : Prop := ∃ last, parts.getLast? = some last ∧ Idle last

/-- The place from which a path leads. -/
def origin : Path → Place
  | '/' :: _ => [FileSystem.root]
  | _ => []

/-- The pieces of a path after its root. -/
def parts : Path → List Text
  | '/' :: rest => pieces rest
  | path => pieces path

/-- What a path needs to lead anywhere, whatever the files are. -/
structure Fit (path : Path) : Prop where
  noNul : path.contains '\x00' = false
  short : (Utf8.encode path).length < FileSystem.maxPath
  nonempty : path ≠ []

/-- The step that a piece stands for. -/
def step (piece : Text) : Component := if piece = FileSystem.up then .up else .name piece

@[simp] theorem steps_nil : steps [] = [] := rfl

theorem steps_cons_idle {piece : Text} (h : Idle piece) (rest : List Text) :
    steps (piece :: rest) = steps rest := by
  unfold Idle at h
  simp [steps, h]

theorem steps_cons {piece : Text} (h : ¬ Idle piece) (rest : List Text) :
    steps (piece :: rest) = step piece :: steps rest := by
  unfold Idle at h
  simp only [steps, step, FileSystem.up, List.filterMap_cons, if_neg h]
  by_cases hup : piece = ['.', '.'] <;> simp [hup]

theorem idle_of_steps_eq_nil {parts : List Text} (h : steps parts = []) :
    ∀ piece ∈ parts, Idle piece := by
  refine fun piece hpiece => Decidable.byContradiction fun hidle => ?_
  obtain ⟨before, after, rfl⟩ := List.append_of_mem hpiece
  rw [steps, List.filterMap_append] at h
  have hafter := (List.append_eq_nil_iff.mp h).2
  exact nomatch (steps_cons hidle after).symm.trans hafter

theorem mem_steps_ne {c : Component} {parts : List Text} (h : c ∈ steps parts) :
    c ≠ .root ∧ c ≠ .here := by
  obtain ⟨piece, -, hpiece⟩ := List.mem_filterMap.mp h
  split at hpiece
  · cases hpiece
  · split at hpiece <;> cases hpiece <;> simp

theorem origin_parts_of_relative {path : Path} (h : ∀ rest, path ≠ '/' :: rest) :
    origin path = [] ∧ parts path = pieces path := by
  unfold origin parts
  split
  next rest => exact absurd rfl (h rest)
  next => exact ⟨rfl, rfl⟩

/-- The components of a path are its steps, after one for its root or for a dot at its start. -/
theorem components_eq (path : Path) :
    (origin path = [FileSystem.root] ∧ components path = .root :: steps (parts path)) ∨
    (origin path = [] ∧ (components path = .here :: steps (parts path) ∨
      components path = steps (parts path))) := by
  unfold components
  split
  next rest => exact .inl ⟨rfl, by simp [parts, pieces, steps_cons_idle (.inl rfl)]⟩
  next rest hrelative hpieces =>
    obtain ⟨horigin, hparts⟩ := origin_parts_of_relative hrelative
    rw [hparts, hpieces, steps_cons_idle (.inr rfl)]
    exact .inr ⟨horigin, .inl rfl⟩
  next hrelative _ =>
    obtain ⟨horigin, hparts⟩ := origin_parts_of_relative hrelative
    rw [hparts]
    exact .inr ⟨horigin, .inr rfl⟩

/-- Paths with the same components start at the same place and take the same steps. -/
theorem origin_steps_eq {p p' : Path} (h : components p = components p') :
    origin p = origin p' ∧ steps (parts p) = steps (parts p') := by
  have hroot : ∀ parts, Component.root ∉ steps parts := fun _ hmem => (mem_steps_ne hmem).1 rfl
  have hhere : ∀ parts, Component.here ∉ steps parts := fun _ hmem => (mem_steps_ne hmem).2 rfl
  grind [components_eq p, components_eq p']

end Path

namespace FileSystem

variable {fs fs' : FileSystem} {here place place' : Place}

/-- The place that a step leads to, if its name is not too long. -/
def take? (fs : FileSystem) (here : Place) : Path.Component → Option Place
  | .name piece =>
    if maxName < (Utf8.encode piece).length then none
    else
      let next := fs.followed maxLinks (here ++ [piece])
      some (if next = workingPlace then [] else next)
  | .up => some (parent here)
  | .here => some here
  | .root => some [root]

/-- The place that steps lead to, each taken in a directory. -/
def follow? (fs : FileSystem) (here : Place) : List Path.Component → Option Place
  | [] => some here
  | c :: rest =>
    match fs.node? here with
    | some .directory => (fs.take? here c).bind fun next => fs.follow? next rest
    | _ => none

theorem follow?_cons {c : Path.Component} {rest : List Path.Component} :
    fs.follow? here (c :: rest) = some place ↔
      fs.node? here = some .directory ∧
        ∃ next, fs.take? here c = some next ∧ fs.follow? next rest = some place := by
  rw [follow?]
  split
  next hnode => simp [hnode, Option.bind_eq_some_iff]
  next hother =>
    refine iff_of_false (by simp) fun h => hother h.1

theorem walk_cons_idle {piece : Text} (h : Path.Idle piece) (rest : List Text) :
    fs.walk here (piece :: rest) = .ok place ↔
      fs.node? here = some .directory ∧ fs.walk here rest = .ok place := by
  unfold Path.Idle at h
  rw [walk]
  split
  next hnode => simp [hnode]
  next hnode => simp [hnode, h]
  next node hother hnode =>
    simp only [hnode, Option.some.injEq, reduceCtorEq, false_iff, not_and]
    exact fun heq => absurd heq hother

theorem walk_cons {piece : Text} (h : ¬ Path.Idle piece) (rest : List Text) :
    fs.walk here (piece :: rest) = .ok place ↔
      fs.node? here = some .directory ∧
        ∃ next, fs.take? here (Path.step piece) = some next ∧ fs.walk next rest = .ok place := by
  unfold Path.Idle at h
  rw [walk]
  split
  next hnode => simp [hnode]
  next hnode =>
    rw [if_neg h]
    by_cases hup : piece = up
    · simp [hnode, hup, Path.step, take?]
    · by_cases hlong : maxName < (Utf8.encode piece).length <;>
        simp [hnode, hup, Path.step, take?, hlong]
  next node hother hnode =>
    simp only [hnode, Option.some.injEq, reduceCtorEq, false_iff, not_and]
    exact fun heq => absurd heq hother

/-- A walk along pieces ends where their steps lead to. -/
theorem follow?_of_walk {parts : List Text} (h : fs.walk here parts = .ok place) :
    fs.follow? here (Path.steps parts) = some place := by
  induction parts generalizing here with
  | nil =>
    cases h
    rfl
  | cons piece rest ih =>
    by_cases hidle : Path.Idle piece
    · rw [Path.steps_cons_idle hidle]
      exact ih ((walk_cons_idle hidle rest).mp h).2
    · obtain ⟨hnode, next, hnext, hrest⟩ := (walk_cons hidle rest).mp h
      rw [Path.steps_cons hidle]
      exact follow?_cons.mpr ⟨hnode, next, hnext, ih hrest⟩

/-- A walk that ends in an idle piece ends at a directory. -/
theorem node?_of_walk {parts : List Text} (h : fs.walk here parts = .ok place)
    (hend : Path.EndsIdle parts) : fs.node? place = some .directory := by
  obtain ⟨last, hlast, hidle⟩ := hend
  induction parts generalizing here with
  | nil => cases hlast
  | cons piece rest ih =>
    cases rest with
    | nil =>
      obtain rfl : piece = last := by simpa using hlast
      obtain ⟨hnode, hrest⟩ := (walk_cons_idle hidle []).mp h
      cases hrest
      exact hnode
    | cons piece' rest =>
      rw [List.getLast?_cons_cons] at hlast
      by_cases hpiece : Path.Idle piece
      · exact ih ((walk_cons_idle hpiece _).mp h).2 hlast
      · obtain ⟨-, next, -, hrest⟩ := (walk_cons hpiece _).mp h
        exact ih hrest hlast

/-- Where steps lead to, a walk along pieces with these steps ends too, unless it asks at its end
for a directory that is not there. -/
theorem walk_of_follow? {parts : List Text}
    (h : fs.follow? here (Path.steps parts) = some place)
    (hend : Path.EndsIdle parts → fs.node? place = some .directory) :
    fs.walk here parts = .ok place := by
  induction parts generalizing here with
  | nil =>
    cases h
    rfl
  | cons piece rest ih =>
    have hrest : Path.EndsIdle rest → fs.node? place = some .directory := by
      rintro ⟨last, hlast, hidle⟩
      refine hend ⟨last, ?_, hidle⟩
      rw [List.getLast?_cons, hlast]
      rfl
    by_cases hidle : Path.Idle piece
    · rw [Path.steps_cons_idle hidle] at h
      refine (walk_cons_idle hidle rest).mpr ⟨?_, ih h hrest⟩
      cases hsteps : Path.steps rest with
      | cons c cs =>
        rw [hsteps] at h
        exact (follow?_cons.mp h).1
      | nil =>
        -- All the pieces are idle, so the last one asks for a directory here.
        rw [hsteps] at h
        cases h
        have hall := List.forall_mem_cons.mpr ⟨hidle, Path.idle_of_steps_eq_nil hsteps⟩
        exact hend ⟨_, List.getLast?_eq_some_getLast (List.cons_ne_nil piece rest),
          hall _ (List.getLast_mem _)⟩
    · rw [Path.steps_cons hidle] at h
      obtain ⟨hnode, next, hnext, hfollow⟩ := follow?_cons.mp h
      exact (walk_cons hidle rest).mpr ⟨hnode, next, hnext, ih hfollow hrest⟩

theorem resolve_eq_ok_iff {path : Path} :
    fs.resolve path = .ok place ↔
      path.Fit ∧ fs.walk (Path.origin path) (Path.parts path) = .ok place := by
  unfold resolve resolveFrom
  by_cases hnul : path.contains '\x00' = true
  · simp only [if_pos hnul, reduceCtorEq, false_iff]
    intro h
    rw [h.1.noNul] at hnul
    cases hnul
  · rw [if_neg hnul]
    by_cases hlong : maxPath ≤ (Utf8.encode path).length
    · simp only [if_pos hlong, reduceCtorEq, false_iff]
      exact fun h => absurd h.1.short (Nat.not_lt.mpr hlong)
    · have hfit : path.Fit ↔ path ≠ [] :=
        ⟨Path.Fit.nonempty, fun hempty =>
          ⟨eq_false_of_ne_true hnul, Nat.not_le.mp hlong, hempty⟩⟩
      rw [if_neg hlong, hfit]
      split
      · simp
      · simp [Path.origin, Path.parts]
      next hempty hrelative =>
        obtain ⟨horigin, hparts⟩ := Path.origin_parts_of_relative hrelative
        rw [horigin, hparts]
        exact (and_iff_right hempty).symm

/-- Of two paths with the same components, of which each leads somewhere in one of two file systems,
one does so in both. -/
theorem resolve_shared {p p' : Path} (hsame : Path.components p = Path.components p')
    (h : fs.resolve p = .ok place) (h' : fs'.resolve p' = .ok place') :
    fs.resolve p' = .ok place ∨ fs'.resolve p = .ok place' := by
  obtain ⟨horigin, hsteps⟩ := Path.origin_steps_eq hsame
  obtain ⟨hfit, hwalk⟩ := resolve_eq_ok_iff.mp h
  obtain ⟨hfit', hwalk'⟩ := resolve_eq_ok_iff.mp h'
  have hfollow := follow?_of_walk hwalk
  have hfollow' := follow?_of_walk hwalk'
  by_cases hend : Path.EndsIdle (Path.parts p')
  · -- The second path ends at a directory, which is all that the end of the first can ask for.
    have hdirectory := node?_of_walk hwalk' hend
    rw [← horigin, ← hsteps] at hfollow'
    exact .inr (resolve_eq_ok_iff.mpr ⟨hfit, walk_of_follow? hfollow' fun _ => hdirectory⟩)
  · rw [horigin, hsteps] at hfollow
    exact .inl (resolve_eq_ok_iff.mpr ⟨hfit', walk_of_follow? hfollow fun h => absurd h hend⟩)

/-- The bytes at a path, if they can be read. -/
def content? (fs : FileSystem) (path : Path) : Option Bytes := (fs.read path).toOption

theorem content?_eq_of_resolve {p p' : Path} (h : fs.resolve p = fs.resolve p') :
    fs.content? p = fs.content? p' := by
  simp only [content?, read, h]

/-- What has no time has no bytes either. -/
theorem content?_eq_none {path : Path} (h : fs.changed? path = none) : fs.content? path = none := by
  unfold changed? at h
  unfold content? read
  split at h
  next error hresolve => simp [hresolve, bind, Except.bind, Except.toOption]
  next here hresolve =>
    have hnode : fs.node? here = none := by
      unfold changedAt? at h
      unfold node?
      split at h
      next => cases h
      next hentry => simpa [hentry] using h
    simp [hresolve, hnode, bind, Except.bind, Except.toOption]

theorem exists_place_of_changed? {path : Path} {time : Timestamp}
    (h : fs.changed? path = some time) : ∃ place, fs.resolve path = .ok place := by
  unfold changed? at h
  split at h
  · cases h
  · exact ⟨_, ‹_›⟩

/-- Two file systems in which every path with the same time has the same bytes. -/
def Agree (fs fs' : FileSystem) : Prop :=
  ∀ path, fs.changed? path = fs'.changed? path → fs.content? path = fs'.content? path

/-- Where two file systems agree, paths with the same components and the same time have the same
bytes. -/
theorem Agree.content?_eq (h : Agree fs fs') {p p' : Path}
    (hsame : Path.components p = Path.components p') (htime : fs.changed? p = fs'.changed? p') :
    fs.content? p = fs'.content? p' := by
  cases hchanged : fs.changed? p with
  | none => rw [content?_eq_none hchanged, content?_eq_none (htime.symm.trans hchanged)]
  | some time =>
    obtain ⟨place, hplace⟩ := exists_place_of_changed? hchanged
    obtain ⟨place', hplace'⟩ := exists_place_of_changed? (htime.symm.trans hchanged)
    rcases resolve_shared hsame hplace hplace' with hshared | hshared
    · have hresolve := hplace.trans hshared.symm
      rw [content?_eq_of_resolve hresolve]
      refine h p' ((Eq.trans ?_ htime))
      simp only [changed?, hresolve]
    · have hresolve := hshared.trans hplace'.symm
      rw [← content?_eq_of_resolve hresolve]
      refine h p (htime.trans ?_)
      simp only [changed?, hresolve]

theorem Agree.refl (fs : FileSystem) : Agree fs fs := fun _ _ => rfl

theorem Agree.symm (h : Agree fs fs') : Agree fs' fs := fun path htime => (h path htime.symm).symm

/-! ### A file in place of another -/

section Put

variable {e : FileEntry} {old new : ByteArray}

theorem entry?_put_self (fs : FileSystem) (e : FileEntry) :
    entry? (fs.put e) e.place = some e := by
  unfold entry? put
  simp

theorem entry?_put_of_ne (fs : FileSystem) (h : place ≠ e.place) :
    entry? (fs.put e) place = fs.entry? place := by
  unfold entry? put
  rw [List.find?_cons_of_neg (by simpa using Ne.symm h), List.find?_filter]
  congr 1
  funext other
  by_cases hother : other.place = place
  · simp [hother, h]
  · simp [hother]

theorem node?_put_of_ne (fs : FileSystem) (h : place ≠ e.place) :
    (fs.put e).node? place = fs.node? place := by
  unfold node?
  rw [entry?_put_of_ne fs h]

theorem node?_put_self (fs : FileSystem) (e : FileEntry) :
    (fs.put e).node? e.place = some e.node := by
  unfold node?
  rw [entry?_put_self]

theorem followed_put (fs : FileSystem) (e : FileEntry) (fuel : Nat) (place : Place) :
    (fs.put e).followed fuel place = fs.followed fuel place := by
  induction fuel generalizing place with
  | zero => rfl
  | succ fuel ih =>
    have hlink : (fs.put e).link? place = fs.link? place := rfl
    rw [followed, followed, hlink]
    split
    · exact ih _
    · rfl

/-- No path leads elsewhere, as files are never on the way. -/
theorem walk_put (hold : fs.node? e.place = some (.file old)) (hnew : e.node = .file new)
    (here : Place) (parts : List Text) : (fs.put e).walk here parts = fs.walk here parts := by
  induction parts generalizing here with
  | nil => rfl
  | cons piece rest ih =>
    by_cases hhere : here = e.place
    · subst hhere
      rw [walk, walk, node?_put_self, hold, hnew]
    · rw [walk, walk, node?_put_of_ne fs hhere]
      simp only [followed_put, ih]

theorem resolve_put (hold : fs.node? e.place = some (.file old)) (hnew : e.node = .file new)
    (path : Path) : (fs.put e).resolve path = fs.resolve path := by
  unfold resolve resolveFrom
  simp only [walk_put hold hnew]

/-- A file that is put in place of another one with another time leaves every file with its time the
bytes that it had. -/
theorem agree_put (hold : fs.node? e.place = some (.file old)) (hnew : e.node = .file new)
    (htime : fs.changedAt? e.place ≠ some e.changed) : fs.Agree (fs.put e) := by
  intro path hsame
  unfold changed? at hsame
  unfold content? read
  rw [resolve_put hold hnew] at hsame ⊢
  cases hresolve : fs.resolve path with
  | error e => rfl
  | ok place =>
    simp only [hresolve] at hsame
    have hplace : place ≠ e.place := by
      rintro rfl
      unfold changedAt? at hsame htime
      rw [entry?_put_self] at hsame
      exact htime hsame
    simp only [bind, Except.bind, node?_put_of_ne fs hplace]

end Put

end FileSystem

end TemplateMap
