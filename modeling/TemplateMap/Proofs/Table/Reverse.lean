import Mathlib.Data.List.Pairwise
import TemplateMap.Table

/-! The reverse query on sorted segments: sorting by the generated start keeps the segments, the
walk over neighbouring starts stops at a segment whose start is the last at or before the line, and
so every line at or past some start is answered from such a segment. -/

namespace TemplateMap.Table

/-- `x` is a segment of `t` that starts at or before the generated line `line`, and none that does
starts later. -/
structure LastStart (t : Table) (line : Int) (x : Segment) : Prop where
  mem : x ∈ t
  le : (x.generated : Int) ≤ line
  max : ∀ y ∈ t, (y.generated : Int) ≤ line → y.generated ≤ x.generated

theorem LastStart.of_mem_iff {t t' : Table} {line : Int} {x : Segment} (h : LastStart t line x)
    (hmem : ∀ s, s ∈ t ↔ s ∈ t') : LastStart t' line x :=
  ⟨(hmem x).mp h.mem, h.le, fun y hy => h.max y ((hmem y).mpr hy)⟩

@[simp] theorem mem_byGenerated {t : Table} {s : Segment} : s ∈ t.byGenerated ↔ s ∈ t :=
  List.mem_mergeSort

theorem byGenerated_sorted (t : Table) :
    t.byGenerated.Pairwise fun a b => a.generated ≤ b.generated := by
  have h := @List.pairwise_mergeSort Segment (fun a b => decide (a.generated ≤ b.generated))
    (fun a b c => by simp only [decide_eq_true_eq]; omega)
    (fun a b => by simp only [Bool.or_eq_true, decide_eq_true_eq]; omega) t
  simpa [byGenerated] using h

/-- Among sorted segments of which the first starts at or before the line, the walk over
neighbouring starts stops at the one behind which all segments start past the line. -/
theorem holding_split {line : Int} {current : Segment} {rest : List Segment}
    (sorted : (current :: rest).Pairwise fun a b => a.generated ≤ b.generated)
    (h : (current.generated : Int) ≤ line) :
    ((holding line current rest).generated : Int) ≤ line ∧
      ∃ before after, current :: rest = before ++ holding line current rest :: after ∧
        ∀ y ∈ after, line < (y.generated : Int) := by
  induction rest generalizing current with
  | nil => exact ⟨h, [], [], rfl, nofun⟩
  | cons next rest ih =>
    obtain ⟨-, hrest⟩ := List.pairwise_cons.mp sorted
    simp only [holding]
    split
    next hnext =>
      refine ⟨h, [], next :: rest, rfl, List.forall_mem_cons.mpr ⟨hnext.2, fun y hy => ?_⟩⟩
      have hstart := (List.pairwise_cons.mp hrest).1 y hy
      omega
    next hnext =>
      obtain ⟨hle, before, after, hsplit, hafter⟩ := ih hrest (by omega)
      exact ⟨hle, current :: before, after, congrArg (current :: ·) hsplit, hafter⟩

/-- So it stops at a last start. -/
theorem holding_lastStart {line : Int} {current : Segment} {rest : List Segment}
    (sorted : (current :: rest).Pairwise fun a b => a.generated ≤ b.generated)
    (h : (current.generated : Int) ≤ line) :
    LastStart (current :: rest) line (holding line current rest) := by
  obtain ⟨hle, before, after, hsplit, hafter⟩ := holding_split sorted h
  rw [hsplit] at sorted ⊢
  obtain ⟨-, -, hbefore⟩ := List.pairwise_append.mp sorted
  refine ⟨List.mem_append_right _ List.mem_cons_self, hle, fun y hy hy' => ?_⟩
  rcases List.mem_append.mp hy with hy | hy
  · exact hbefore y hy _ List.mem_cons_self
  rcases List.mem_cons.mp hy with rfl | hy
  · exact Nat.le_refl _
  · have hpast := hafter y hy
    omega

theorem offsetFrom_start (s : Segment) : offsetFrom s s.generated = max 1 s.template := by
  have hle := s.template_le
  unfold offsetFrom clampLine
  split
  · omega
  · split <;> omega

/-- Segments with the same generated start are sorted in the order of the table. -/
theorem filter_byGenerated (t : Table) (g : Nat) :
    t.byGenerated.filter (·.generated = g) = t.filter (·.generated = g) := by
  have hequal : (t.filter (·.generated = g)).Pairwise
      fun a b => decide (a.generated ≤ b.generated) = true := by
    refine List.pairwise_of_forall_mem_list fun a ha b hb => ?_
    simp only [List.mem_filter, decide_eq_true_eq] at ha hb ⊢
    omega
  have hsublist : (t.filter (·.generated = g)).Sublist t.byGenerated :=
    List.sublist_mergeSort (fun a b c => by simp only [decide_eq_true_eq]; omega)
      (fun a b => by simp only [Bool.or_eq_true, decide_eq_true_eq]; omega) hequal
      List.filter_sublist
  have hfilter := hsublist.filter (·.generated = g)
  rw [List.filter_filter] at hfilter
  simp only [Bool.and_self] at hfilter
  have hperm : t.byGenerated.Perm t := List.mergeSort_perm _ _
  exact (hfilter.eq_of_length ((hperm.filter _).length_eq).symm).symm

/-- The first segment of the table that starts at a generated line answers for it. -/
theorem reverse?_of_find? {t : Table} {g : Nat} {s : Segment}
    (h : t.find? (·.generated = g) = some s) :
    t.reverse? g = some ⟨max 1 s.template, .exact⟩ := by
  have hstart : (fun s : Segment => (s.generated : Int) == g) =
      fun s => decide (s.generated = g) := by
    funext s
    rw [Bool.eq_iff_iff, beq_iff_eq, decide_eq_true_iff]
    omega
  have hfind : t.byGenerated.find? (fun s => (s.generated : Int) == g) = some s := by
    rw [hstart, ← List.head?_filter, filter_byGenerated, List.head?_filter, h]
  unfold reverse?
  cases hsorted : t.byGenerated with
  | nil =>
    rw [hsorted] at hfind
    cases hfind
  | cons first rest =>
    rw [hsorted] at hfind
    simp only [hfind]

/-! ### The segments that share the last start -/

theorem LastStart.iff {t : Table} {line : Int} {x y : Segment} (h : LastStart t line x)
    (hy : y ∈ t) : LastStart t line y ↔ y.generated = x.generated := by
  have hle := h.le
  constructor
  · intro h'
    exact Nat.le_antisymm (h.max y hy h'.le) (h'.max x h.mem hle)
  · intro hstart
    exact ⟨hy, by omega, fun z hz hz' => hstart ▸ h.max z hz hz'⟩

instance (t : Table) (line : Int) (x : Segment) : Decidable (LastStart t line x) :=
  decidable_of_iff (x ∈ t ∧ (x.generated : Int) ≤ line ∧
      ∀ y ∈ t, (y.generated : Int) ≤ line → y.generated ≤ x.generated)
    ⟨fun ⟨hmem, hle, hmax⟩ => ⟨hmem, hle, hmax⟩, fun h => ⟨h.mem, h.le, h.max⟩⟩

/-- The segments with the last start at or before a generated line, in the order of the table. -/
def lastStarts (t : Table) (line : Int) : Table := t.filter (LastStart t line ·)

theorem mem_lastStarts {t : Table} {line : Int} {x : Segment} :
    x ∈ t.lastStarts line ↔ LastStart t line x := by
  rw [lastStarts, List.mem_filter, decide_eq_true_iff]
  exact and_iff_right_of_imp LastStart.mem

theorem LastStart.lastStarts_eq {t : Table} {line : Int} {x : Segment} (h : LastStart t line x) :
    t.lastStarts line = t.filter (·.generated = x.generated) :=
  List.filter_congr fun _ hy => decide_eq_decide.mpr (h.iff hy)

/-- The walk over the sorted starts stops at the segment that comes last in the table among those
that share the last start. -/
theorem getLast?_lastStarts {t : Table} {line : Int} {first : Segment} {rest : List Segment}
    (hsorted : t.byGenerated = first :: rest) (h : (first.generated : Int) ≤ line) :
    (t.lastStarts line).getLast? = some (holding line first rest) := by
  have sorted := byGenerated_sorted t
  rw [hsorted] at sorted
  have last : LastStart t line (holding line first rest) :=
    (holding_lastStart sorted h).of_mem_iff fun s => by rw [← hsorted, mem_byGenerated]
  -- Sorting keeps the order of the group, and behind the stop no segment belongs to it.
  obtain ⟨-, before, after, hsplit, hafter⟩ := holding_split sorted h
  have hpast : after.filter (·.generated = (holding line first rest).generated) = [] := by
    refine List.filter_eq_nil_iff.mpr fun y hy => ?_
    have hlt := hafter y hy
    have hle := last.le
    rw [decide_eq_true_iff]
    omega
  rw [last.lastStarts_eq, ← filter_byGenerated, hsorted]
  generalize holding line first rest = x at *
  have hgroup : (x :: after).filter (·.generated = x.generated) = [x] := by
    rw [List.filter_cons_of_pos (by simp), hpast]
  rw [hsplit, List.filter_append, hgroup, List.getLast?_concat]

/-- A line at or past some generated start is answered from the segments that share the last start
before it: from the first of them in the table if the line is that start, else from the last. -/
theorem reverse?_lastStarts {t : Table} {line : Int} {s : Segment} (hs : s ∈ t)
    (h : (s.generated : Int) ≤ line) :
    ∃ first last, (t.lastStarts line).head? = some first ∧
      (t.lastStarts line).getLast? = some last ∧
      t.reverse? line = some (if (first.generated : Int) = line
        then ⟨max 1 first.template, .exact⟩ else ⟨offsetFrom last line, .interpolated⟩) := by
  obtain ⟨first, rest, hsorted⟩ : ∃ first rest, t.byGenerated = first :: rest :=
    List.exists_cons_of_ne_nil (List.ne_nil_of_mem (mem_byGenerated.mpr hs))
  have hfirst : (first.generated : Int) ≤ line := by
    have sorted := byGenerated_sorted t
    have hmem : s ∈ t.byGenerated := mem_byGenerated.mpr hs
    rw [hsorted] at sorted hmem
    rcases List.mem_cons.mp hmem with rfl | hrest
    · exact h
    · have hle := (List.pairwise_cons.mp sorted).1 s hrest
      omega
  have hlast := getLast?_lastStarts hsorted hfirst
  have last := mem_lastStarts.mp (List.mem_of_getLast? hlast)
  obtain ⟨x, hx⟩ : ∃ x, (t.lastStarts line).head? = some x :=
    ⟨_, List.head?_eq_some_head (List.ne_nil_of_mem (mem_lastStarts.mpr last))⟩
  have hxlast := mem_lastStarts.mp (List.mem_of_head? hx)
  refine ⟨x, _, hx, hlast, ?_⟩
  split
  next hstart =>
    subst hstart
    refine reverse?_of_find? ?_
    rw [← List.head?_filter, ← hxlast.lastStarts_eq, hx]
  next hne =>
    have hfind : (first :: rest).find? (fun s => (s.generated : Int) == line) = none := by
      rw [← hsorted, List.find?_eq_none]
      intro y hy hstart
      rw [beq_iff_eq] at hstart
      have hle := hxlast.max y (mem_byGenerated.mp hy) (by omega)
      have hxle := hxlast.le
      omega
    simp only [reverse?, hsorted, hfind, if_neg (Int.not_lt.mpr hfirst)]

/-- So it is answered from a last start, and exactly if it is that start. -/
theorem reverse?_of_start_le {t : Table} {line : Int} {s : Segment} (hs : s ∈ t)
    (h : (s.generated : Int) ≤ line) :
    ∃ x, LastStart t line x ∧ t.reverse? line =
      some ⟨offsetFrom x line, if (x.generated : Int) = line then .exact else .interpolated⟩ := by
  obtain ⟨first, last, hfirst, hlast, hreverse⟩ := reverse?_lastStarts hs h
  have hfirst := mem_lastStarts.mp (List.mem_of_head? hfirst)
  have hlast := mem_lastStarts.mp (List.mem_of_getLast? hlast)
  have hsame := (hfirst.iff hlast.mem).mp hlast
  rw [hreverse]
  split
  next hstart => exact ⟨first, hfirst, by rw [if_pos hstart, ← hstart, offsetFrom_start]⟩
  next hne => exact ⟨last, hlast, by rw [hsame, if_neg hne]⟩

/-- Where no two segments share a generated start, a segment is known by its own. -/
theorem eq_of_generated {t : Table} (h : t.Pairwise fun a b => a.generated ≠ b.generated)
    {x y : Segment} (hx : x ∈ t) (hy : y ∈ t) (hstart : x.generated = y.generated) : x = y := by
  have symm : Std.Symm fun a b : Segment => a.generated ≠ b.generated := ⟨fun _ _ => Ne.symm⟩
  by_contra hne
  exact h.forall hx hy hne hstart

/-- So the one with the last start answers. -/
theorem LastStart.reverse?_eq {t : Table} {line : Int} {x : Segment} (last : LastStart t line x)
    (h : t.Pairwise fun a b => a.generated ≠ b.generated) :
    t.reverse? line =
      some ⟨offsetFrom x line, if (x.generated : Int) = line then .exact else .interpolated⟩ := by
  obtain ⟨y, hy, hreverse⟩ := reverse?_of_start_le last.mem last.le
  rw [hreverse, eq_of_generated h hy.mem last.mem ((last.iff hy.mem).mp hy)]

/-- Ahead of all starts, a line is answered from a segment with the first one. -/
theorem reverse?_of_lt_starts {t : Table} {line : Int} (h : t ≠ [])
    (hahead : ∀ s ∈ t, line < (s.generated : Int)) :
    ∃ x ∈ t, (∀ y ∈ t, x.generated ≤ y.generated) ∧
      t.reverse? line = some ⟨offsetFrom x line, .extrapolated⟩ := by
  obtain ⟨s, hs⟩ := List.exists_mem_of_ne_nil t h
  obtain ⟨first, rest, hsorted⟩ : ∃ first rest, t.byGenerated = first :: rest :=
    List.exists_cons_of_ne_nil (List.ne_nil_of_mem (mem_byGenerated.mpr hs))
  have hmem : ∀ y, y ∈ first :: rest ↔ y ∈ t := fun y => by rw [← hsorted, mem_byGenerated]
  have sorted := byGenerated_sorted t
  rw [hsorted] at sorted
  have hfirst := (hmem first).mp List.mem_cons_self
  have hfind : (first :: rest).find? (fun s => (s.generated : Int) == line) = none := by
    refine List.find?_eq_none.mpr fun y hy hstart => ?_
    have hlt := hahead y ((hmem y).mp hy)
    rw [beq_iff_eq] at hstart
    omega
  refine ⟨first, hfirst, fun y hy => ?_, ?_⟩
  · rcases List.mem_cons.mp ((hmem y).mpr hy) with rfl | hrest
    · exact Nat.le_refl _
    · exact (List.pairwise_cons.mp sorted).1 y hrest
  · simp only [reverse?, hsorted, hfind, if_pos (hahead first hfirst)]

end TemplateMap.Table
