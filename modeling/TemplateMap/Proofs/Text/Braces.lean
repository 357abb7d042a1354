import Mathlib.Data.Int.Init
import Mathlib.Data.List.Infix
import TemplateMap.Proofs.Text.Runs

/-! Matching braces: how many braces a text leaves open, texts in which all braces match, and the
brace that closes the first one opened in a sequence of lines.  There is at most one such brace, and
there is one as soon as a text closes as many braces as it opens. -/

namespace TemplateMap.Text

variable {t p before body : Text} {c : Char}

/-- How many more braces a text opens than it closes. -/
def braceBalance (t : Text) : Int := t.count '\x7b' - t.count '\x7d'

@[simp] theorem braceBalance_nil : braceBalance [] = 0 := rfl

@[simp] theorem braceBalance_append (a b : Text) :
    braceBalance (a ++ b) = braceBalance a + braceBalance b := by
  simp only [braceBalance, List.count_append]
  omega

theorem braceBalance_cons (c : Char) (t : Text) :
    braceBalance (c :: t) = braceBalance [c] + braceBalance t := braceBalance_append [c] t

@[simp] theorem braceBalance_open : braceBalance ['\x7b'] = 1 := by decide

@[simp] theorem braceBalance_close : braceBalance ['\x7d'] = -1 := by decide

theorem braceBalance_other (hopen : c ≠ '\x7b') (hclose : c ≠ '\x7d') : braceBalance [c] = 0 := by
  simp [braceBalance, hopen, hclose]

theorem braceBalance_of_notMem (hopen : '\x7b' ∉ t) (hclose : '\x7d' ∉ t) : braceBalance t = 0 := by
  simp [braceBalance, List.count_eq_zero_of_not_mem, hopen, hclose]

/-- The text opens braces, and leaves none of them open. -/
def Settles (t : Text) : Prop := '\x7b' ∈ t ∧ braceBalance t ≤ 0

instance : DecidablePred Settles := fun t =>
  inferInstanceAs (Decidable ('\x7b' ∈ t ∧ braceBalance t ≤ 0))

/-- Each brace of the text matches another one in it. -/
structure IsBalanced (t : Text) : Prop where
  balance : braceBalance t = 0
  beginnings : ∀ p, p <+: t → 0 ≤ braceBalance p

instance : DecidablePred IsBalanced := fun t =>
  decidable_of_iff (braceBalance t = 0 ∧ ∀ p ∈ t.inits, 0 ≤ braceBalance p)
    ⟨fun h => ⟨h.1, fun p hp => h.2 p ((List.mem_inits p t).mpr hp)⟩,
      fun h => ⟨h.balance, fun p hp => h.beginnings p ((List.mem_inits p t).mp hp)⟩⟩

/-- A text that closes more braces than it opens up to some place has a first brace without a match:
all before it match each other. -/
theorem exists_unmatched (hp : p <+: t) (h : braceBalance p < 0) :
    ∃ body rest, t = body ++ '\x7d' :: rest ∧ IsBalanced body := by
  induction t using List.reverseRecOn generalizing p with
  | nil =>
    rw [List.prefix_nil.mp hp, braceBalance_nil] at h
    omega
  | append_singleton t c ih =>
    by_cases hearlier : ∃ p, p <+: t ∧ braceBalance p < 0
    · obtain ⟨p, hp, hneg⟩ := hearlier
      obtain ⟨body, rest, rfl, hbody⟩ := ih hp hneg
      exact ⟨body, rest ++ [c], by simp, hbody⟩
    · have hbeginnings : ∀ p, p <+: t → 0 ≤ braceBalance p := by
        intro p hp
        by_contra hneg
        exact hearlier ⟨p, hp, by omega⟩
      have htext := hbeginnings t (List.prefix_refl t)
      -- The last character is the one that makes the balance negative.
      obtain rfl : p = t ++ [c] := by
        rcases List.prefix_concat_iff.mp hp with rfl | hp
        · rfl
        · have := hbeginnings p hp
          omega
      rw [braceBalance_append] at h
      obtain rfl : c = '\x7d' := by
        by_contra hclose
        by_cases hopen : c = '\x7b'
        · rw [hopen, braceBalance_open] at h
          omega
        · rw [braceBalance_other hopen hclose] at h
          omega
      rw [braceBalance_close] at h
      exact ⟨t, [], rfl, by omega, hbeginnings⟩

theorem takeWhile_append_open (h : '\x7b' ∉ before) (rest : Text) :
    (before ++ '\x7b' :: rest).takeWhile (· ≠ '\x7b') = before := by
  refine takeWhile_append_run (fun c hc => ?_) (by simp)
  exact decide_eq_true fun heq => h (heq ▸ hc)

/-- A brace that closes right behind the text closes the first one that the text opens. -/
def AwaitsClose (t : Text) : Prop :=
  ∃ before body, t = before ++ '\x7b' :: body ∧ '\x7b' ∉ before ∧ IsBalanced body

/-- Of two texts that await the same brace, none ends before that brace. -/
theorem AwaitsClose.not_prefix {t' : Text} (h : AwaitsClose t) (h' : AwaitsClose t') :
    ¬ t ++ ['\x7d'] <+: t' := by
  rintro ⟨more, heq⟩
  obtain ⟨before, body, rfl, hbefore, hbody⟩ := h
  obtain ⟨before', body', rfl, hbefore', hbody'⟩ := h'
  rw [List.append_assoc, List.append_assoc, List.cons_append] at heq
  have hsame := congrArg (List.takeWhile (· ≠ '\x7b')) heq
  rw [takeWhile_append_open hbefore, takeWhile_append_open hbefore'] at hsame
  obtain rfl := hsame
  obtain ⟨-, rfl⟩ := List.cons.inj (List.append_cancel_left heq)
  have hneg := hbody'.beginnings (body ++ ['\x7d']) ⟨more, by simp⟩
  rw [braceBalance_append, hbody.balance, braceBalance_close] at hneg
  omega

/-- No brace is closed before the first one is opened. -/
def OpensFirst (t : Text) : Prop := '\x7d' ∉ t.takeWhile (· ≠ '\x7b')

instance : DecidablePred OpensFirst := fun t =>
  inferInstanceAs (Decidable ('\x7d' ∉ t.takeWhile (· ≠ '\x7b')))

theorem OpensFirst.of_prefix (h : OpensFirst t) (hp : p <+: t) : OpensFirst p := by
  obtain ⟨more, rfl⟩ := hp
  rw [OpensFirst, List.takeWhile_append] at h
  split at h
  · exact fun hmem => h (List.mem_append_left _ ((List.takeWhile_prefix _).subset hmem))
  · exact h

/-- A text whose first brace is opened and that leaves none open holds the brace that closes the
first one. -/
theorem exists_awaitsClose (hsettles : Settles t) (hfirst : OpensFirst t) :
    ∃ inner rest, t = inner ++ '\x7d' :: rest ∧ AwaitsClose inner := by
  obtain ⟨hopen, h⟩ := hsettles
  obtain ⟨before, after, rfl, hbefore⟩ := List.eq_append_cons_of_mem hopen
  rw [OpensFirst, takeWhile_append_open hbefore] at hfirst
  rw [braceBalance_append, braceBalance_of_notMem hbefore hfirst, braceBalance_cons,
    braceBalance_open] at h
  obtain ⟨body, rest, rfl, hbody⟩ := exists_unmatched (List.prefix_refl after) (by omega)
  exact ⟨before ++ '\x7b' :: body, rest, by simp, before, body, rfl, hbefore, hbody⟩

/-- The brace that closes the first one opened in the lines stands in the line at `k`. -/
def ClosesAt (lines : List Text) (k : Nat) : Prop :=
  ∃ left right, lines[k]? = some (left ++ '\x7d' :: right) ∧
    AwaitsClose ((lines.take k).flatten ++ left)

theorem ClosesAt.lt_length {lines : List Text} {k : Nat} (h : ClosesAt lines k) :
    k < lines.length := by
  obtain ⟨left, right, hline, -⟩ := h
  exact (List.getElem?_eq_some_iff.mp hline).1

theorem prefix_flatten_take {lines : List Text} {k n : Nat} {line : Text}
    (hline : lines[k]? = some line) (h : k < n) :
    (lines.take k).flatten ++ line <+: (lines.take n).flatten := by
  have htake : (lines.take (k + 1)).flatten = (lines.take k).flatten ++ line := by
    rw [List.take_add_one, hline, Option.toList_some, List.flatten_append, List.flatten_singleton]
  rw [← htake]
  exact (List.take_prefix_take_left h).flatten

theorem ClosesAt.not_lt {lines : List Text} {k n : Nat} (h : ClosesAt lines k)
    (h' : ClosesAt lines n) : ¬ k < n := by
  intro hlt
  obtain ⟨left, right, hline, hawaits⟩ := h
  obtain ⟨left', right', -, hawaits'⟩ := h'
  refine hawaits.not_prefix hawaits' (List.IsPrefix.trans ?_
    ((prefix_flatten_take hline hlt).trans (List.prefix_append _ left')))
  exact ⟨right, by simp⟩

theorem ClosesAt.unique {lines : List Text} {k n : Nat} (h : ClosesAt lines k)
    (h' : ClosesAt lines n) : k = n :=
  Nat.le_antisymm (Nat.le_of_not_lt (h'.not_lt h)) (Nat.le_of_not_lt (h.not_lt h'))

/-- A character of joined lines stands in one of them. -/
theorem exists_line_of_flatten {lines : List Text} {before after : Text}
    (h : lines.flatten = before ++ c :: after) :
    ∃ k left right, lines[k]? = some (left ++ c :: right) ∧
      before = (lines.take k).flatten ++ left := by
  induction lines generalizing before with
  | nil => simp at h
  | cons line lines ih =>
    rw [List.flatten_cons] at h
    rcases List.append_eq_append_iff.mp h with ⟨inner, rfl, hrest⟩ | ⟨inner, rfl, hrest⟩
    · obtain ⟨k, left, right, hline, rfl⟩ := ih hrest
      exact ⟨k + 1, left, right, hline, by simp⟩
    · cases inner with
      | nil =>
        have hlines : lines.flatten = [] ++ c :: after := hrest.symm
        obtain ⟨k, left, right, hline, hbefore⟩ := ih hlines
        refine ⟨k + 1, left, right, hline, ?_⟩
        rw [List.take_succ_cons, List.flatten_cons, List.append_assoc, ← hbefore, List.append_nil,
          List.append_nil]
      | cons d inner =>
        obtain ⟨rfl, -⟩ := List.cons.inj hrest
        exact ⟨0, before, inner, rfl, rfl⟩

/-- Lines whose first brace is opened hold the brace that closes it, if they leave none open. -/
theorem exists_closesAt {lines : List Text} {n : Nat} (hsettles : Settles (lines.take n).flatten)
    (hfirst : OpensFirst lines.flatten) : ∃ k < n, ClosesAt lines k := by
  have hbeginning : OpensFirst (lines.take n).flatten :=
    hfirst.of_prefix (List.take_prefix n lines).flatten
  obtain ⟨inner, rest, htext, hawaits⟩ := exists_awaitsClose hsettles hbeginning
  obtain ⟨k, left, right, hline, rfl⟩ := exists_line_of_flatten htext
  have hk : k < n := by
    have hlength := (List.getElem?_eq_some_iff.mp hline).1
    exact lt_of_lt_of_le hlength (List.length_take_le n lines)
  rw [List.getElem?_take_of_lt hk] at hline
  rw [List.take_take, Nat.min_eq_left hk.le] at hawaits
  exact ⟨k, hk, left, right, hline, hawaits⟩

end TemplateMap.Text
