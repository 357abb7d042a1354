import Mathlib.Data.List.DropRight
import Mathlib.Data.List.TakeWhile
import TemplateMap.Text.Basic

/-! Trimming: what is taken off the ends of a text, what is left, and the texts that it leaves as
they are. -/

namespace TemplateMap

/-- A text that neither begins nor ends with white space. -/
structure IsTrimmed (t : Text) : Prop where
  head : ∀ c ∈ t.head?, isBlank c = false
  last : ∀ c ∈ t.getLast?, isBlank c = false

namespace Text

variable {t : Text} {c : Char}

theorem trim_append_left {margin : Text} (h : ∀ c ∈ margin, isBlank c = true) (t : Text) :
    trim (margin ++ t) = trim t := by
  rw [trim, trimStart, List.dropWhile_append_of_pos h]
  rfl

theorem trimEnd_append {tail : Text} (h : ∀ c ∈ tail, isBlank c = true) (t : Text) :
    trimEnd (t ++ tail) = trimEnd t := by
  rw [trimEnd, List.reverse_append,
    List.dropWhile_append_of_pos fun c hc => h c (List.mem_reverse.mp hc)]
  rfl

theorem trim_append_right {tail : Text} (h : ∀ c ∈ tail, isBlank c = true) (t : Text) :
    trim (t ++ tail) = trim t := by
  simp only [trim, trimStart, List.dropWhile_append]
  split
  next hblank =>
    rw [List.isEmpty_iff.mp hblank, List.dropWhile_eq_nil_iff.mpr h]
  next => exact trimEnd_append h _

/-- Trimming the end of a text goes no further than what is not white space. -/
theorem trimEnd_append_cons (hc : isBlank c = false) (s t : Text) :
    trimEnd (s ++ c :: t) = s ++ c :: trimEnd t := by
  have hstop : (c :: s.reverse).dropWhile isBlank = c :: s.reverse :=
    List.dropWhile_cons_of_neg (by simp [hc])
  have hdrop : (t.reverse ++ c :: s.reverse).dropWhile isBlank =
      t.reverse.dropWhile isBlank ++ c :: s.reverse := by
    rw [List.dropWhile_append, hstop]
    split
    next hblank => rw [List.isEmpty_iff.mp hblank, List.nil_append]
    next => rfl
  rw [trimEnd, List.reverse_append, List.reverse_cons, List.append_assoc, List.singleton_append,
    hdrop]
  simp [trimEnd]

/-- The white space that trimming takes off. -/
theorem takeWhile_append_trim_append (t : Text) :
    t.takeWhile isBlank ++ t.trim ++ t.trimStart.rtakeWhile isBlank = t := by
  rw [List.append_assoc, trim, trimEnd, ← List.rdropWhile, List.rdropWhile_append_rtakeWhile]
  exact List.takeWhile_append_dropWhile

theorem isTrimmed_trim (t : Text) : IsTrimmed t.trim where
  head c hc := by
    have hsplit : t.trim ++ t.trimStart.rtakeWhile isBlank = t.dropWhile isBlank :=
      List.rdropWhile_append_rtakeWhile
    have hhead : (t.dropWhile isBlank).head? = some c := by
      rw [← hsplit, List.head?_append, Option.mem_def.mp hc, Option.some_or]
    have hnot := List.head?_dropWhile_not isBlank t
    rw [hhead] at hnot
    exact hnot
  last c hc := by
    obtain ⟨hne, rfl⟩ := List.mem_getLast?_eq_getLast hc
    exact Bool.eq_false_iff.mpr (List.rdropWhile_last_not isBlank t.trimStart hne)

theorem trim_eq_nil_iff : t.trim = [] ↔ ∀ c ∈ t, isBlank c = true := by
  constructor
  · intro h
    have hsplit := takeWhile_append_trim_append t
    rw [h, List.append_nil] at hsplit
    rw [← hsplit]
    exact List.forall_mem_append.mpr
      ⟨fun _ => List.mem_takeWhile_imp, fun _ => List.mem_rtakeWhile_imp⟩
  · intro h
    have htrim := trim_append_left h []
    rw [List.append_nil] at htrim
    exact htrim

/-- To turn a character into another is the same before and after trimming, unless only one of the
two is white space. -/
theorem trim_swap {a b : Char} (h : isBlank a = isBlank b) (t : Text) :
    (t.swap a b).trim = t.trim.swap a b := by
  have hsame : (isBlank ∘ fun c => if c = a then b else c) = isBlank := by
    funext c
    rw [Function.comp_apply]
    split
    next hc => rw [hc, h]
    next => rfl
  simp only [trim, trimStart, trimEnd, swap, List.dropWhile_map, hsame, ← List.map_reverse]

end Text

namespace IsTrimmed

variable {t : Text}

theorem trimStart_eq (h : IsTrimmed t) : t.trimStart = t := by
  cases t with
  | nil => rfl
  | cons c t => exact List.dropWhile_cons_of_neg (by simp [h.head c rfl])

theorem trim_eq (h : IsTrimmed t) : t.trim = t := by
  rw [Text.trim, h.trimStart_eq]
  refine List.rdropWhile_eq_self_iff.mpr fun hne => ?_
  simp [h.last _ (List.getLast?_eq_some_getLast hne)]

theorem eq_nil_of_blank_suffix {before tail : Text} (h : IsTrimmed (before ++ tail))
    (hblank : ∀ c ∈ tail, isBlank c = true) : tail = [] := by
  by_contra hne
  have hlast := h.last (tail.getLast hne) (by
    rw [List.getLast?_append, List.getLast?_eq_some_getLast hne]
    rfl)
  exact Bool.false_ne_true (hlast.symm.trans (hblank _ (List.getLast_mem hne)))

/-- What ends a trimmed text is trimmed but for the white space at its start. -/
theorem takeWhile_append_trim {before tail : Text} (h : IsTrimmed (before ++ tail)) :
    tail.takeWhile isBlank ++ tail.trim = tail := by
  have hsplit := tail.takeWhile_append_trim_append
  have hend : tail.trimStart.rtakeWhile isBlank = [] := by
    rw [← hsplit, ← List.append_assoc] at h
    exact h.eq_nil_of_blank_suffix fun _ => List.mem_rtakeWhile_imp
  rwa [hend, List.append_nil] at hsplit

theorem swap {a b : Char} (h : IsTrimmed t) (hblank : isBlank a = isBlank b) :
    IsTrimmed (t.swap a b) := by
  rw [← h.trim_eq, ← Text.trim_swap hblank]
  exact Text.isTrimmed_trim _

end IsTrimmed

end TemplateMap
