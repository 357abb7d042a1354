import TemplateMap.Method
import TemplateMap.Proofs.Text.Size
import TemplateMap.Proofs.Word.Basic

/-! The search for a method and the spreading over it on machine words: a brace depth is a signed
word, and the lines of a table are computed as words of 64 bits. -/

namespace TemplateMap

namespace Word

/-- The brace depth after a line, and whether a brace has been opened by then. -/
def depthAfter (state : Int × Bool) (line : Text) : Checked (Int × Bool) :=
  line.foldlM (fun (depth, opened) c => do
    if c = '\x7b' then return (← signed (depth + 1), true)
    else if c = '\x7d' then return (← signed (depth - 1), opened)
    else return (depth, opened)) state

/-- A depth grows by no more than the characters read. -/
theorem depthAfter_eq (state : Int × Bool) (line : Text) {n : Nat} (h : state.1.natAbs ≤ n)
    (hn : n + line.length ≤ 9223372036854775807) :
    depthAfter state line = .ok (Method.depthAfter state line) ∧
      (Method.depthAfter state line).1.natAbs ≤ n + line.length := by
  induction line generalizing state n with
  | nil => exact ⟨rfl, h⟩
  | cons c line ih =>
    obtain ⟨depth, opened⟩ := state
    rw [List.length_cons] at hn ⊢
    simp only at h
    rw [depthAfter, Method.depthAfter, List.foldlM_cons, List.foldl_cons, ← Nat.add_assoc,
      Nat.add_right_comm]
    have hnext : ∀ next : Int × Bool, next.1.natAbs ≤ n + 1 →
        depthAfter next line = .ok (Method.depthAfter next line) ∧
          (Method.depthAfter next line).1.natAbs ≤ n + 1 + line.length :=
      fun next hle => ih next hle (by omega)
    by_cases hopen : c = '\x7b'
    · simp only [if_pos hopen]
      rw [signed_eq_ok (by omega) (by omega)]
      exact hnext (depth + 1, true) (by simp only; omega)
    · simp only [if_neg hopen]
      by_cases hclose : c = '\x7d'
      · simp only [if_pos hclose]
        rw [signed_eq_ok (by omega) (by omega)]
        exact hnext (depth - 1, opened) (by simp only; omega)
      · simp only [if_neg hclose]
        exact hnext (depth, opened) (by simp only; omega)

/-- How many of the lines to the first one that ends with all opened braces closed. -/
def closing? (state : Int × Bool) : List Text → Checked (Option Nat)
  | [] => return none
  | line :: rest => do
    let after ← depthAfter state line
    if after.2 && after.1 ≤ 0 then return some 0
    return (← closing? after rest).map (· + 1)

theorem closing?_eq {state : Int × Bool} {lines : List Text} {n : Nat} (h : state.1.natAbs ≤ n)
    (hn : n + Text.charCount lines ≤ 9223372036854775807) :
    closing? state lines = .ok (Method.closing? state lines) := by
  induction lines generalizing state n with
  | nil => rfl
  | cons line rest ih =>
    rw [Text.charCount_cons] at hn
    obtain ⟨hafter, hle⟩ := depthAfter_eq state line h (by omega)
    rw [closing?, hafter, Loop.ok_bind, Method.closing?]
    split
    · rfl
    · rw [ih hle (by omega)]
      rfl

/-- How many of the lines below the first one, which declares a method, to the end of its body. -/
def bodyEnd? : List Text → Checked (Option Nat)
  | [] => return none
  | declaration :: below => do closing? (← depthAfter (0, false) declaration) below

/-- The span of the first method whose declaration names `anchor`. -/
def find? (lines : List Text) (anchor : Text) : Checked (Option MethodSpan) :=
  match lines.findIdx? (Method.declares anchor) with
  | none => return none
  | some first => do
    match ← bodyEnd? (lines.drop first) with
    | some below => return some ⟨first, first + 1 + below⟩
    | none => return some ⟨first, lines.length - 1⟩

theorem find?_eq {lines : List Text} (h : Text.charCount lines ≤ 9223372036854775807)
    (anchor : Text) :
    find? lines anchor = .ok (Method.find? lines anchor) := by
  rw [find?, Method.find?]
  cases lines.findIdx? (Method.declares anchor) with
  | none => rfl
  | some first =>
    have hdrop := Text.charCount_drop_le lines first
    simp only
    cases hlines : lines.drop first with
    | nil => rfl
    | cons declaration below =>
      rw [hlines, Text.charCount_cons] at hdrop
      obtain ⟨hdepth, hle⟩ := depthAfter_eq (0, false) declaration (Nat.le_refl 0) (by omega)
      rw [bodyEnd?, hdepth, Loop.ok_bind, closing?_eq hle (by omega), Loop.ok_bind]
      simp only
      cases Method.closing? (Method.depthAfter (0, false) declaration) below <;> rfl

end Word

namespace Method

theorem closing?_lt {state : Int × Bool} {lines : List Text} {n : Nat}
    (h : closing? state lines = some n) : n < lines.length := by
  induction lines generalizing state n with
  | nil => cases h
  | cons line rest ih =>
    rw [closing?] at h
    rw [List.length_cons]
    split at h
    · obtain rfl := Option.some.inj h
      omega
    · obtain ⟨m, hm, rfl⟩ := Option.map_eq_some_iff.mp h
      have := ih hm
      omega

/-- A span that is found lies within the lines. -/
theorem span_of_find? {lines : List Text} {anchor : Text} {span : MethodSpan}
    (h : find? lines anchor = some span) : span.first ≤ span.last ∧ span.last < lines.length := by
  unfold find? at h
  split at h
  · cases h
  next first hfirst =>
    have hbound : first < lines.length := (List.findIdx?_eq_some_iff_getElem.mp hfirst).1
    simp only at h
    split at h
    next below hlast =>
      obtain rfl := Option.some.inj h
      split at hlast
      · cases hlast
      next declaration rest hlines =>
        have hlength := congrArg List.length hlines
        rw [List.length_drop, List.length_cons] at hlength
        have hbelow := closing?_lt hlast
        exact ⟨by simp only; omega, by simp only; omega⟩
    next =>
      obtain rfl := Option.some.inj h
      exact ⟨by simp only; omega, by simp only; omega⟩

end Method

namespace Word

/-- The segment of the template line after the first `i` ones, spread over `width` lines in so many
steps. -/
def spreadSegment (first width steps i : Nat) : Checked Segment := do
  let product ← mul Config.maxWord (← sub (i + 1) 1) width
  let offset ← div product steps
  let above ← add Config.maxWord first offset
  return Segment.single (i + 1) (← add Config.maxWord above 1)

theorem spreadSegment_eq {first width steps i : Nat} (hfirst : first ≤ Config.maxHalfWord)
    (hwidth : width ≤ Config.maxHalfWord) (hi : i ≤ width) (hsteps : steps ≠ 0) :
    spreadSegment first width steps i =
      .ok (Segment.single (i + 1) (first + i * width / steps + 1)) := by
  unfold Config.maxHalfWord at hfirst hwidth
  have hproduct : i * width ≤ 4294967295 * 4294967295 :=
    Nat.mul_le_mul (Nat.le_trans hi hwidth) hwidth
  have hoffset : i * width / steps ≤ i * width := Nat.div_le_self ..
  have hmul : i * width ≤ Config.maxWord := by unfold Config.maxWord; omega
  have habove : first + i * width / steps ≤ Config.maxWord := by unfold Config.maxWord; omega
  have hline : first + i * width / steps + 1 ≤ Config.maxWord := by unfold Config.maxWord; omega
  rw [spreadSegment, sub_eq_ok (Nat.le_add_left 1 i), Loop.ok_bind, Nat.add_sub_cancel,
    mul_eq_ok hmul, Loop.ok_bind, div_eq_ok hsteps, Loop.ok_bind, add_eq_ok habove,
    Loop.ok_bind, add_eq_ok hline]
  rfl

/-- The table that spreads template lines evenly over a span. -/
def spread (divisor : Nat) (span : MethodSpan) : Checked Table := do
  let width ← sub span.last span.first
  let estimated ← div width (max 1 divisor)
  let steps ← sub (max 1 estimated) 1
  (List.range (max 1 estimated)).mapM (spreadSegment span.first width (max 1 steps))

theorem spread_eq {span : MethodSpan} (h : span.first ≤ span.last)
    (hlast : span.last ≤ Config.maxHalfWord) (divisor : Nat) :
    spread divisor span = .ok (Method.spread divisor span) := by
  have hdivisor : max 1 divisor ≠ 0 := by omega
  have hestimated : 1 ≤ max 1 (span.width / max 1 divisor) := Nat.le_max_left ..
  rw [spread, sub_eq_ok h, Loop.ok_bind, ← MethodSpan.width, div_eq_ok hdivisor,
    Loop.ok_bind, sub_eq_ok hestimated, Loop.ok_bind, Method.spread]
  refine Loop.mapM_eq_ok fun i hi => ?_
  have hi' : i ≤ span.width := by
    have hquotient := Nat.div_le_self span.width (max 1 divisor)
    rw [List.mem_range] at hi
    omega
  have hwidth : span.width ≤ Config.maxHalfWord := Nat.le_trans (Nat.sub_le ..) hlast
  exact spreadSegment_eq (Nat.le_trans h hlast) hwidth hi' (by omega)

end Word

end TemplateMap
