import TemplateMap.Line
import TemplateMap.Text.Basic

/-! Segments: runs of template lines laid onto strided runs of generated lines. -/

namespace TemplateMap

/-- The template lines `template`, `template + 1`, …, `count` of them, laid onto the generated lines
`generated`, `generated + stride`, …, and the id of the file that the template lines belong to. -/
structure Segment where
  template : Nat
  count : Nat
  generated : Nat
  stride : Nat
  file : Option Text
  template_le : template ≤ lastLine
  count_pos : 1 ≤ count
  count_le : count ≤ lastLine
  generated_le : generated ≤ lastLine
  stride_pos : 1 ≤ stride
  stride_le : stride ≤ lastLine
  /-- One line has no stride of its own. -/
  stride_single : count = 1 → stride = 1
  deriving DecidableEq

namespace Segment

/-- The segment with these four numbers: an empty run is read as one line, a stride of none as one,
the stride of a single line as one, and a number past `lastLine` as `lastLine`. -/
def of (template count generated stride : Nat) (file : Option Text) : Segment :=
  let lines := max 1 (min count lastLine)
  { template := min template lastLine
    count := lines
    generated := min generated lastLine
    stride := if lines = 1 then 1 else max 1 (min stride lastLine)
    file := file
    template_le := Nat.min_le_right ..
    count_pos := Nat.le_max_left ..
    count_le := by simp only [lines, lastLine]; omega
    generated_le := Nat.min_le_right ..
    stride_pos := by split <;> omega
    stride_le := by simp only [lastLine]; split <;> omega
    stride_single := fun h => if_pos h }

/-- The segment that lays one template line onto one generated line. -/
def single (template generated : Nat) : Segment := of template 1 generated 1 none

/-- The template line after the last one. -/
def templateEnd (s : Segment) : Int := s.template + s.count

/-- Whether `line` is one of the segment's template lines. -/
def covers (s : Segment) (line : Int) : Bool := s.template ≤ line && line < s.templateEnd

theorem covers_eq_true_iff {s : Segment} {line : Int} :
    s.covers line = true ↔ s.template ≤ line ∧ line < s.template + s.count := by
  rw [covers, templateEnd, Bool.and_eq_true, decide_eq_true_eq, decide_eq_true_eq]

/-- The generated line of a covered template line, clamped to a word; none for another line. -/
def generatedAt? (s : Segment) (line : Int) : Option Int :=
  if s.covers line then
    some (clampWord (s.generated + clampWord ((line - s.template) * s.stride)))
  else none

/-- The written form `template[#file][,count]:generated[,stride]`, where a count and a stride of one
are left out. -/
def shown (s : Segment) : Text :=
  let file := match s.file with
    | none => []
    | some id => '#' :: id
  let count := if s.count = 1 then [] else ',' :: Text.ofNat s.count
  let stride := if s.stride = 1 then [] else ',' :: Text.ofNat s.stride
  Text.ofNat s.template ++ file ++ count ++ ':' :: Text.ofNat s.generated ++ stride

end Segment

end TemplateMap
