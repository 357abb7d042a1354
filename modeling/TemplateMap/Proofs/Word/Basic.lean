import TemplateMap.Config
import TemplateMap.Line
import TemplateMap.Proofs.Loop

/-! Operations on machine words that stop the program where the result is no word, where a divisor
is zero, or where a slice is not part of its list. -/

namespace TemplateMap

/-- What stops a program. -/
inductive Stop
  | overflow
  | divisionByZero
  | outOfBounds
  /-- A path is given an extension that holds a separator. -/
  | extension (error : Path.ExtensionError)

/-- What a program computes that may stop. -/
abbrev Checked (α : Type) := Except Stop α

namespace Word

variable {bound a b : Nat}

/-- The sum of two words, of which `bound` is the greatest. -/
def add (bound a b : Nat) : Checked Nat :=
  if a + b ≤ bound then .ok (a + b) else .error .overflow

/-- The difference of two words without a sign. -/
def sub (a b : Nat) : Checked Nat := if b ≤ a then .ok (a - b) else .error .overflow

/-- The product of two words, of which `bound` is the greatest. -/
def mul (bound a b : Nat) : Checked Nat :=
  if a * b ≤ bound then .ok (a * b) else .error .overflow

/-- The quotient of two words. -/
def div (a b : Nat) : Checked Nat := if b = 0 then .error .divisionByZero else .ok (a / b)

/-- A number as a signed word of 64 bits. -/
def signed (n : Int) : Checked Int := if clampWord n = n then .ok n else .error .overflow

/-- The elements of a list from the place `first` to the one before `last`. -/
def slice {α : Type} (l : List α) (first last : Nat) : Checked (List α) :=
  if first ≤ last ∧ last ≤ l.length then .ok ((l.take last).drop first) else .error .outOfBounds

theorem add_eq_ok (h : a + b ≤ bound) : add bound a b = .ok (a + b) := if_pos h

theorem sub_eq_ok (h : b ≤ a) : sub a b = .ok (a - b) := if_pos h

theorem mul_eq_ok (h : a * b ≤ bound) : mul bound a b = .ok (a * b) := if_pos h

theorem div_eq_ok (h : b ≠ 0) : div a b = .ok (a / b) := if_neg h

theorem signed_eq_ok {n : Int} (low : -9223372036854775808 ≤ n) (high : n ≤ 9223372036854775807) :
    signed n = .ok n := by
  refine if_pos ?_
  unfold clampWord
  rw [if_neg (by omega), if_neg (by omega)]

theorem slice_eq_ok {α : Type} {l : List α} {first last : Nat} (h : first ≤ last)
    (hlast : last ≤ l.length) : slice l first last = .ok ((l.take last).drop first) :=
  if_pos ⟨h, hlast⟩

end Word

end TemplateMap
