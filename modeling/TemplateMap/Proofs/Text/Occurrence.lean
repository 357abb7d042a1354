import Mathlib.Data.List.Infix
import TemplateMap.Text.Basic

/-! First occurrences: where a part first stands in a list, and how that place moves when the list
is continued or cut off, when something that shares no element with the part is put before it, and
when all elements are renamed. -/

namespace TemplateMap

section Prefix

variable {α : Type} {part whole before : List α} {c : α} {n : Nat}

theorem prefix_drop_append_iff {after : List α} (h : n + part.length ≤ whole.length) :
    part <+: (whole ++ after).drop n ↔ part <+: whole.drop n := by
  rw [List.drop_append_of_le_length (Nat.le_of_add_right_le h)]
  refine ⟨fun hpart => ?_, fun hpart => hpart.trans (List.prefix_append _ _)⟩
  refine List.prefix_of_prefix_length_le hpart (List.prefix_append _ _) ?_
  rw [List.length_drop]
  omega

theorem not_prefix_cons (hempty : part ≠ []) (hc : c ∉ part) (rest : List α) :
    ¬ part <+: c :: rest := by
  intro h
  obtain ⟨d, part, rfl⟩ := List.exists_cons_of_ne_nil hempty
  exact hc ((List.cons_prefix_cons.mp h).1 ▸ List.mem_cons_self)

/-- A prefix without some element ends before it. -/
theorem prefix_append_cons_iff (hc : c ∉ part) (rest : List α) :
    part <+: before ++ c :: rest ↔ part <+: before := by
  refine ⟨fun h => ?_, fun h => h.trans (List.prefix_append _ _)⟩
  rcases List.prefix_or_prefix_of_prefix h (List.prefix_append before _) with hpart | ⟨more, rfl⟩
  · exact hpart
  · rw [List.prefix_append_right_inj] at h
    rw [List.mem_append, not_or] at hc
    cases more with
    | nil => simp
    | cons d more => exact absurd h (not_prefix_cons (List.cons_ne_nil d more) hc.2 rest)

end Prefix

variable {α β : Type} [BEq α] [LawfulBEq α] [BEq β] [LawfulBEq β] {part whole : List α} {n : Nat}

/-- The first occurrence is the least place at which the rest of the list begins with the part. -/
theorem firstOccurrence?_eq_some_iff :
    firstOccurrence? part whole = some n ↔
      part <+: whole.drop n ∧ ∀ m < n, ¬ part <+: whole.drop m := by
  induction whole generalizing n with
  | nil =>
    rw [firstOccurrence?]
    cases part with
    | nil =>
      simp only [List.isEmpty_nil, if_true, Option.some.injEq, List.nil_prefix, not_true, true_and]
      refine ⟨fun h _ hm => by omega, fun h => ?_⟩
      exact (Nat.eq_zero_of_not_pos fun hpos => h 0 hpos).symm
    | cons c part => simp
  | cons c rest ih =>
    rw [firstOccurrence?]
    split
    next h =>
      rw [List.isPrefixOf_iff_prefix] at h
      constructor
      · rintro ⟨⟩
        exact ⟨h, nofun⟩
      · rintro ⟨-, hleast⟩
        rw [Nat.eq_zero_of_not_pos fun hpos => hleast 0 hpos h]
    next h =>
      rw [List.isPrefixOf_iff_prefix] at h
      cases n with
      | zero => simp [h]
      | succ n =>
        simp only [Option.map_eq_some_iff, Nat.add_right_cancel_iff, exists_eq_right, ih,
          List.drop_succ_cons]
        refine and_congr_right fun _ => ⟨fun hleast m hm => ?_, fun hleast m hm => ?_⟩
        · cases m with
          | zero => exact h
          | succ m => exact hleast m (Nat.lt_of_succ_lt_succ hm)
        · exact hleast (m + 1) (Nat.succ_lt_succ hm)

theorem firstOccurrence?_eq_zero (h : part <+: whole) : firstOccurrence? part whole = some 0 :=
  firstOccurrence?_eq_some_iff.mpr ⟨h, nofun⟩

theorem length_of_firstOccurrence? (h : firstOccurrence? part whole = some n) :
    n + part.length ≤ whole.length := by
  obtain ⟨hat, hleast⟩ := firstOccurrence?_eq_some_iff.mp h
  have hlength := hat.length_le
  rw [List.length_drop] at hlength
  cases part with
  | nil =>
    have hzero : n = 0 := Nat.eq_zero_of_not_pos fun hpos => hleast 0 hpos List.nil_prefix
    simp [hzero]
  | cons c part =>
    rw [List.length_cons] at hlength ⊢
    omega

/-- What follows an occurrence does not matter. -/
theorem firstOccurrence?_append (h : firstOccurrence? part whole = some n) (after : List α) :
    firstOccurrence? part (whole ++ after) = some n := by
  have hlength := length_of_firstOccurrence? h
  obtain ⟨hat, hleast⟩ := firstOccurrence?_eq_some_iff.mp h
  refine firstOccurrence?_eq_some_iff.mpr ⟨(prefix_drop_append_iff hlength).mpr hat, fun m hm => ?_⟩
  rw [prefix_drop_append_iff (by omega)]
  exact hleast m hm

/-- The first elements of a list have its first occurrence if that lies within them, and else
none. -/
theorem firstOccurrence?_take (part whole : List α) (k : Nat) :
    firstOccurrence? part (whole.take k) =
      (firstOccurrence? part whole).filter fun n => n + part.length ≤ k := by
  ext n
  rw [Option.filter_eq_some_iff, decide_eq_true_iff]
  constructor
  · intro htake
    have hwhole := firstOccurrence?_append htake (whole.drop k)
    rw [List.take_append_drop] at hwhole
    exact ⟨hwhole, (length_of_firstOccurrence? htake).trans (List.length_take_le k whole)⟩
  · rintro ⟨hwhole, hle⟩
    have hlength : n + part.length ≤ (whole.take k).length :=
      List.length_take ▸ le_min hle (length_of_firstOccurrence? hwhole)
    obtain ⟨hat, hleast⟩ := firstOccurrence?_eq_some_iff.mp hwhole
    rw [← List.take_append_drop k whole] at hat hleast
    refine firstOccurrence?_eq_some_iff.mpr
      ⟨(prefix_drop_append_iff hlength).mp hat, fun m hm hbefore => hleast m hm ?_⟩
    exact (prefix_drop_append_iff (by omega)).mpr hbefore

theorem firstOccurrence?_cons_of_not_start {c : α} {rest : List α} (h : ¬ part <+: c :: rest) :
    firstOccurrence? part (c :: rest) = (firstOccurrence? part rest).map (· + 1) := by
  rw [← List.isPrefixOf_iff_prefix] at h
  rw [firstOccurrence?, if_neg h]

theorem occursIn_iff : occursIn part whole = true ↔ part <:+: whole := by
  induction whole with
  | nil => cases part <;> simp [occursIn, firstOccurrence?]
  | cons c rest ih =>
    rw [List.infix_cons_iff, ← ih]
    by_cases h : part <+: c :: rest
    · simp [occursIn, firstOccurrence?_eq_zero h, h]
    · simp [occursIn, firstOccurrence?_cons_of_not_start h, h]

/-- A part does not occur in what shares no element with it. -/
theorem firstOccurrence?_append_left (hempty : part ≠ []) {before : List α}
    (h : ∀ c ∈ before, c ∉ part) (rest : List α) :
    firstOccurrence? part (before ++ rest) =
      (firstOccurrence? part rest).map (· + before.length) := by
  induction before with
  | nil => simp
  | cons c before ih =>
    have hc := not_prefix_cons hempty (h c List.mem_cons_self) (before ++ rest)
    rw [List.cons_append, firstOccurrence?_cons_of_not_start hc,
      ih fun d hd => h d (List.mem_cons_of_mem c hd), Option.map_map]
    rfl

/-- An occurrence lies on one side of an element that the part does not have. -/
theorem firstOccurrence?_append_cons (hempty : part ≠ []) {c : α} (hc : c ∉ part)
    (before rest : List α) :
    firstOccurrence? part (before ++ c :: rest) =
      (firstOccurrence? part before).or
        ((firstOccurrence? part rest).map (· + (before.length + 1))) := by
  induction before with
  | nil =>
    rw [List.nil_append, firstOccurrence?_cons_of_not_start (not_prefix_cons hempty hc rest)]
    simp [firstOccurrence?, hempty]
  | cons d before ih =>
    by_cases hstart : part <+: d :: before
    · rw [firstOccurrence?_eq_zero hstart,
        firstOccurrence?_eq_zero (hstart.trans (List.prefix_append _ _))]
      rfl
    · have hlong : ¬ part <+: d :: (before ++ c :: rest) :=
        fun h => hstart ((prefix_append_cons_iff hc rest).mp h)
      rw [List.cons_append, firstOccurrence?_cons_of_not_start hlong, ih,
        firstOccurrence?_cons_of_not_start hstart]
      cases firstOccurrence? part before
      · simp only [Option.none_or, Option.map_none, Option.map_map]
        rfl
      · rfl

/-- What shares no element with the part makes no occurrence. -/
theorem occursIn_append_right (hempty : part ≠ []) {rest : List α} (h : ∀ c ∈ rest, c ∉ part)
    (before : List α) : occursIn part (before ++ rest) = occursIn part before := by
  cases rest with
  | nil => rw [List.append_nil]
  | cons c rest =>
    obtain ⟨hc, hrest⟩ := List.forall_mem_cons.mp h
    have hnone : firstOccurrence? part rest = none := by
      rw [← List.append_nil rest, firstOccurrence?_append_left hempty hrest]
      simp [firstOccurrence?, hempty]
    rw [occursIn, firstOccurrence?_append_cons hempty hc, hnone, Option.map_none, Option.or_none,
      occursIn]

/-- The list ends with the first occurrence of the part in it. -/
def EndsAtFirst (part whole : List α) : Prop :=
  ∃ n, firstOccurrence? part whole = some n ∧ n + part.length = whole.length

theorem endsAtFirst_append_left (hempty : part ≠ []) {before : List α}
    (h : ∀ c ∈ before, c ∉ part) (hwhole : EndsAtFirst part whole) :
    EndsAtFirst part (before ++ whole) := by
  obtain ⟨n, hn, hend⟩ := hwhole
  refine ⟨n + before.length, by rw [firstOccurrence?_append_left hempty h, hn]; rfl, ?_⟩
  rw [List.length_append]
  omega

theorem endsAtFirst_append_cons_iff (hempty : part ≠ []) {c : α} (hc : c ∉ part)
    {before rest : List α} :
    EndsAtFirst part (before ++ c :: rest) ↔
      firstOccurrence? part before = none ∧ EndsAtFirst part rest := by
  unfold EndsAtFirst
  rw [firstOccurrence?_append_cons hempty hc, List.length_append, List.length_cons]
  constructor
  · rintro ⟨n, hn, hend⟩
    cases hbefore : firstOccurrence? part before with
    | some m =>
      have hlength := length_of_firstOccurrence? hbefore
      rw [hbefore, Option.some_or, Option.some.injEq] at hn
      omega
    | none =>
      rw [hbefore, Option.none_or, Option.map_eq_some_iff] at hn
      obtain ⟨m, hm, rfl⟩ := hn
      exact ⟨rfl, m, hm, by omega⟩
  · rintro ⟨hnone, m, hm, hend⟩
    exact ⟨m + (before.length + 1), by rw [hnone, hm]; rfl, by omega⟩

/-- No occurrence starts in what comes before, if no end of that begins with the part or begins
it. -/
theorem occursIn_append_left {before : List α}
    (h : ∀ s ∈ before.tails, s ≠ [] → ¬ s <+: part ∧ ¬ part <+: s) (rest : List α) :
    occursIn part (before ++ rest) = occursIn part rest := by
  induction before with
  | nil => rfl
  | cons c before ih =>
    rw [List.tails_cons, List.forall_mem_cons] at h
    obtain ⟨hshort, hlong⟩ := h.1 (List.cons_ne_nil c before)
    have hstart : ¬ part <+: c :: (before ++ rest) := fun hpart =>
      (List.prefix_or_prefix_of_prefix hpart (List.prefix_append (c :: before) rest)).elim
        hlong hshort
    rw [← ih h.2, List.cons_append, occursIn, firstOccurrence?_cons_of_not_start hstart,
      Option.isSome_map, occursIn]

theorem firstOccurrence?_map {f : α → β} (hf : Function.Injective f) :
    firstOccurrence? (part.map f) (whole.map f) = firstOccurrence? part whole := by
  induction whole with
  | nil => cases part <;> rfl
  | cons c rest ih =>
    have hstart : part.map f <+: (c :: rest).map f ↔ part <+: c :: rest :=
      List.prefix_map_iff_of_injective hf
    by_cases h : part <+: c :: rest
    · rw [firstOccurrence?_eq_zero h, firstOccurrence?_eq_zero (hstart.mpr h)]
    · have hmap := mt hstart.mp h
      rw [List.map_cons] at hmap ⊢
      rw [firstOccurrence?_cons_of_not_start h, firstOccurrence?_cons_of_not_start hmap, ih]

end TemplateMap
