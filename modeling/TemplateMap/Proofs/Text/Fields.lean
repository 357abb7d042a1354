import Mathlib.Data.List.Basic
import TemplateMap.Text.Basic

/-! Fields of a line: a text cut at its first separator, and decimal numbers, which read back as
what was written. -/

namespace TemplateMap.Text

theorem cut?_append_cons {p : Char → Bool} {t : Text} {c : Char} (h : ∀ x ∈ t, p x = false)
    (hc : p c = true) (rest : Text) : cut? p (t ++ c :: rest) = some (t, rest) := by
  induction t with
  | nil => simp [cut?, hc]
  | cons x t ih =>
    obtain ⟨hx, ht⟩ := List.forall_mem_cons.mp h
    simp [cut?, hx, ih ht]

theorem cut?_eq_none {p : Char → Bool} {t : Text} (h : ∀ x ∈ t, p x = false) :
    cut? p t = none := by
  induction t with
  | nil => rfl
  | cons x t ih =>
    obtain ⟨hx, ht⟩ := List.forall_mem_cons.mp h
    simp [cut?, hx, ih ht]

theorem cut?_eq_some_iff {p : Char → Bool} {t first second : Text} :
    cut? p t = some (first, second) ↔
      (∀ x ∈ first, p x = false) ∧ ∃ c, p c = true ∧ t = first ++ c :: second := by
  constructor
  · intro h
    induction t generalizing first with
    | nil => cases h
    | cons x t ih =>
      rw [cut?] at h
      split at h
      next hx =>
        obtain ⟨rfl, rfl⟩ := Prod.mk.inj (Option.some.inj h)
        exact ⟨nofun, x, hx, rfl⟩
      next hx =>
        obtain ⟨⟨rest, _⟩, hrest, heq⟩ := Option.map_eq_some_iff.mp h
        obtain ⟨rfl, rfl⟩ := Prod.mk.inj heq
        obtain ⟨hfirst, c, hc, rfl⟩ := ih hrest
        exact ⟨List.forall_mem_cons.mpr ⟨Bool.eq_false_iff.mpr hx, hfirst⟩, c, hc, rfl⟩
  · rintro ⟨hfirst, c, hc, rfl⟩
    exact cut?_append_cons hfirst hc second

theorem digitsValue_eq (acc : Nat) (t : Text) : digitsValue acc t = Nat.ofDigitChars 10 t acc := by
  rw [Nat.ofDigitChars_eq_foldl]
  induction t generalizing acc with
  | nil =>
    unfold digitsValue
    rfl
  | cons c t ih =>
    unfold digitsValue
    rw [ih, List.foldl_cons, Nat.mul_comm]

theorem isDigit_of_mem_ofNat {n : Nat} {c : Char} (h : c ∈ ofNat n) : c.isDigit = true :=
  Nat.isDigit_of_mem_toDigits (by decide) (by decide) h

theorem ofNat_ne_nil (n : Nat) : ofNat n ≠ [] := Nat.toDigits_ne_nil

/-- The decimal digits of a number read back as the number. -/
theorem number?_ofNat {bound n : Nat} (h : n ≤ bound) : number? bound (ofNat n) = some n := by
  have hvalue : digitsValue 0 (ofNat n) = n := by
    rw [digitsValue_eq]
    exact Nat.ofDigitChars_toDigits (by decide) (by decide)
  have hdigits : (ofNat n).all Char.isDigit = true :=
    List.all_eq_true.mpr fun _ hc => isDigit_of_mem_ofNat hc
  simp [number?, ofNat_ne_nil, hdigits, hvalue, h]

end TemplateMap.Text
