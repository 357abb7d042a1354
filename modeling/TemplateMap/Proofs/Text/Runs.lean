import Mathlib.Data.List.TakeDrop
import Mathlib.Data.List.TakeWhile
import TemplateMap.Text.Basic
import TemplateMap.Text.WordChar

/-! Runs of characters of one kind at the start of a text, and the kinds that exclude each other:
white space is neither a digit nor part of a word, and has no letter case. -/

namespace TemplateMap

variable {c : Char}

/-! ### Kinds of characters -/

/-- The code points of white space. -/
def blankPoints : List Nat :=
  [9, 10, 11, 12, 13, 0x20, 0x85, 0xa0, 0x1680, 0x2000, 0x2001, 0x2002, 0x2003, 0x2004, 0x2005,
   0x2006, 0x2007, 0x2008, 0x2009, 0x200a, 0x2028, 0x2029, 0x202f, 0x205f, 0x3000]

theorem toNat_mem_of_isBlank (h : isBlank c = true) : c.toNat ∈ blankPoints := by
  simp only [isBlank, Bool.or_eq_true, Bool.and_eq_true, decide_eq_true_eq, beq_iff_eq] at h
  simp only [blankPoints, List.mem_cons, List.not_mem_nil, or_false]
  omega

/-- What holds nowhere among the code points of white space does not hold of white space. -/
theorem eq_false_of_isBlank {p : Char → Bool} (hp : ∀ n ∈ blankPoints, p (Char.ofNat n) = false)
    (h : isBlank c = true) : p c = false := by
  have hc := hp c.toNat (toNat_mem_of_isBlank h)
  rwa [Char.ofNat_toNat] at hc

theorem isDecimalDigit_of_isBlank : isBlank c = true → isDecimalDigit c = false :=
  eq_false_of_isBlank (by decide)

theorem isWordChar_of_isBlank : isBlank c = true → isWordChar c = false :=
  eq_false_of_isBlank (by decide +kernel)

theorem isBlank_of_isDecimalDigit (h : isDecimalDigit c = true) : isBlank c = false := by
  by_contra hblank
  rw [isDecimalDigit_of_isBlank (by simpa using hblank)] at h
  cases h

theorem isBlank_of_isWordChar (h : isWordChar c = true) : isBlank c = false := by
  by_contra hblank
  rw [isWordChar_of_isBlank (by simpa using hblank)] at h
  cases h

/-- Only capital letters of ASCII have another character in lower case, which is a letter, too. -/
theorem toLower_eq_or (c : Char) :
    c.toLower = c ∨ (65 ≤ c.toNat ∧ c.toNat ≤ 90) ∧ 97 ≤ c.toLower.toNat := by
  unfold Char.toLower
  split
  next h =>
    simp only [ge_iff_le, UInt32.le_iff_toNat_le] at h
    have hlow : 65 ≤ c.toNat := h.1
    have hhigh : c.toNat ≤ 90 := h.2
    refine .inr ⟨⟨hlow, hhigh⟩, ?_⟩
    change 97 ≤ (c.val + 32).toNat
    rw [UInt32.toNat_add]
    change 97 ≤ (c.toNat + 32) % 4294967296
    omega
  next => exact .inl rfl

/-- White space is in lower case. -/
theorem toLower_of_isBlank (h : isBlank c = true) : c.toLower = c := by
  refine (toLower_eq_or c).resolve_right fun ⟨hcapital, _⟩ => ?_
  have hpoint := toNat_mem_of_isBlank h
  simp only [blankPoints, List.mem_cons, List.not_mem_nil, or_false] at hpoint
  omega

/-- A character below the letters in lower case is the same in both cases. -/
theorem eq_of_toLower_eq {d : Char} (h : c.toLower = d) (hd : d.toNat < 97) : c = d := by
  rcases toLower_eq_or c with hc | ⟨-, hlower⟩
  · exact hc.symm.trans h
  · rw [h] at hlower
    omega

namespace Text

/-! ### Runs -/

section Runs

variable {α : Type} {run rest : List α} {p : α → Bool}

theorem takeWhile_append_run (hrun : ∀ c ∈ run, p c = true)
    (hrest : ∀ c ∈ rest.head?, p c = false) : (run ++ rest).takeWhile p = run := by
  rw [List.takeWhile_append_of_pos hrun]
  cases rest with
  | nil => rw [List.takeWhile_nil, List.append_nil]
  | cons c rest => rw [List.takeWhile_cons_of_neg (by simp [hrest c rfl]), List.append_nil]

theorem dropWhile_append_run (hrun : ∀ c ∈ run, p c = true)
    (hrest : ∀ c ∈ rest.head?, p c = false) : (run ++ rest).dropWhile p = rest := by
  rw [List.dropWhile_append_of_pos hrun]
  cases rest with
  | nil => rfl
  | cons c rest => exact List.dropWhile_cons_of_neg (by simp [hrest c rfl])

theorem span_append_run (hrun : ∀ c ∈ run, p c = true) (hrest : ∀ c ∈ rest.head?, p c = false) :
    (run ++ rest).span p = (run, rest) := by
  rw [List.span_eq_takeWhile_dropWhile, takeWhile_append_run hrun hrest,
    dropWhile_append_run hrun hrest]

/-- The two parts of a span are a run and what does not go on with it. -/
theorem of_span_eq {t : List α} (h : t.span p = (run, rest)) :
    t = run ++ rest ∧ (∀ c ∈ run, p c = true) ∧ ∀ c ∈ rest.head?, p c = false := by
  rw [List.span_eq_takeWhile_dropWhile] at h
  obtain ⟨rfl, rfl⟩ := Prod.mk.inj h
  refine ⟨List.takeWhile_append_dropWhile.symm, fun c => List.mem_takeWhile_imp, fun c hc => ?_⟩
  have hnot := List.head?_dropWhile_not p t
  rw [Option.mem_def.mp hc] at hnot
  exact hnot

end Runs

variable {run rest : Text}

theorem trimStart_append_run (hrun : ∀ c ∈ run, isBlank c = true)
    (hrest : ∀ c ∈ rest.head?, isBlank c = false) : trimStart (run ++ rest) = rest :=
  dropWhile_append_run hrun hrest

theorem exists_append_trimStart (t : Text) : ∃ gap, t = gap ++ t.trimStart ∧
    (∀ c ∈ gap, isBlank c = true) ∧ ∀ c ∈ t.trimStart.head?, isBlank c = false :=
  ⟨t.takeWhile isBlank, of_span_eq (List.span_eq_takeWhile_dropWhile isBlank t)⟩

theorem trimStart_eq_self (h : ∀ c ∈ rest.head?, isBlank c = false) : trimStart rest = rest :=
  trimStart_append_run (List.forall_mem_nil _) h

end Text

end TemplateMap
