import Mathlib.Data.Nat.Find
import Mathlib.Order.Bounds.Basic
import TemplateMap.Proofs.Blob

/-! The tokens of a blob.  The end token is looked for from the beginning of the start token on, so
it may be found inside it, and the blob may end before the start token does.  The blob runs from a
whole start token to the first end token behind it exactly where no end token begins in the start
token. -/

namespace TemplateMap

/-! ### Places -/

section Places

variable {α : Type} {part whole : List α} {low n : Nat}

/-- The places from `low` on at which the rest of a list begins with a part. -/
def places (part whole : List α) (low : Nat) : Set Nat := {n | low ≤ n ∧ part <+: whole.drop n}

theorem places_subset {high : Nat} (h : low ≤ high) (part whole : List α) :
    places part whole high ⊆ places part whole low := fun _ hn => ⟨h.trans hn.1, hn.2⟩

theorem length_of_mem_places (hempty : part ≠ []) (h : n ∈ places part whole low) :
    n + part.length ≤ whole.length := by
  have hlength := h.2.length_le
  rw [List.length_drop] at hlength
  have hpos := List.length_pos_iff.mpr hempty
  omega

theorem isLeast_places_zero (h : part <+: whole) : IsLeast (places part whole 0) 0 :=
  ⟨⟨le_rfl, h⟩, fun _ _ => Nat.zero_le _⟩

variable [BEq α] [LawfulBEq α]

theorem firstOccurrence?_drop_eq_some_iff :
    firstOccurrence? part (whole.drop low) = some n ↔
      IsLeast (places part whole low) (low + n) := by
  simp only [firstOccurrence?_eq_some_iff, List.drop_drop]
  constructor
  · rintro ⟨hat, hleast⟩
    refine ⟨⟨Nat.le_add_right low n, hat⟩, fun m ⟨hlow, hm⟩ => ?_⟩
    by_contra hlt
    refine hleast (m - low) (by omega) ?_
    rwa [Nat.add_sub_cancel' hlow]
  · rintro ⟨⟨-, hat⟩, hleast⟩
    refine ⟨hat, fun m hm hbefore => ?_⟩
    have hle := hleast ⟨Nat.le_add_right low m, hbefore⟩
    omega

theorem firstOccurrence?_drop_eq_none_iff :
    firstOccurrence? part (whole.drop low) = none ↔ places part whole low = ∅ := by
  classical
  rw [Set.eq_empty_iff_forall_notMem]
  constructor
  · intro hnone m hm
    have hexists : ∃ n, n ∈ places part whole low := ⟨m, hm⟩
    obtain ⟨n, hn⟩ := Nat.exists_eq_add_of_le (Nat.find_spec hexists).1
    have hleast : IsLeast (places part whole low) (low + n) :=
      hn ▸ ⟨Nat.find_spec hexists, fun k hk => Nat.find_min' hexists hk⟩
    rw [firstOccurrence?_drop_eq_some_iff.mpr hleast] at hnone
    cases hnone
  · intro hempty
    cases hfirst : firstOccurrence? part (whole.drop low) with
    | none => rfl
    | some n => exact absurd (firstOccurrence?_drop_eq_some_iff.mp hfirst).1 (hempty _)

end Places

/-! ### Blobs -/

variable {data : Bytes} {start finish : Text} {result : Except TierError Bytes} {skip : Nat}

/-- What a search for the two tokens finds that passes over `skip` bytes from the beginning of the
first start token before it looks for the end token. -/
inductive IsFound (skip : Nat) (data : Bytes) (start finish : Text) :
    Except TierError Bytes → Prop
  | noStart (hstart : places (Utf8.encode start) data 0 = ∅) :
    IsFound skip data start finish (.error (.noStartToken start))
  | noEnd {first : Nat} (hfirst : IsLeast (places (Utf8.encode start) data 0) first)
    (hfinish : places (Utf8.encode finish) data (first + skip) = ∅) :
    IsFound skip data start finish (.error (.noEndToken start finish first))
  | blob {first last : Nat} (hfirst : IsLeast (places (Utf8.encode start) data 0) first)
    (hlast : IsLeast (places (Utf8.encode finish) data (first + skip)) last) :
    IsFound skip data start finish
      (.ok (data.extract first (last + (Utf8.encode finish).length)))

/-- No end token begins in the first start token of the data. -/
def ApartIn (data : Bytes) (start finish : Text) : Prop :=
  ∀ first, IsLeast (places (Utf8.encode start) data 0) first →
    ∀ n ∈ places (Utf8.encode finish) data first, first + (Utf8.encode start).length ≤ n

/-- No end token can begin in a start token: neither of the end token and the rest of the start
token from some byte on begins with the other. -/
def TokensApart (start finish : Text) : Prop :=
  ∀ tail ∈ (Utf8.encode start).tails, tail ≠ [] →
    ¬tail <+: Utf8.encode finish ∧ ¬Utf8.encode finish <+: tail

instance (start finish : Text) : Decidable (TokensApart start finish) :=
  inferInstanceAs (Decidable (∀ tail ∈ (Utf8.encode start).tails, tail ≠ [] →
    ¬tail <+: Utf8.encode finish ∧ ¬Utf8.encode finish <+: tail))

theorem findBlob_isFound (data : Bytes) (start finish : Text) :
    IsFound 0 data start finish (findBlob data start finish) := by
  have hwhole : firstOccurrence? (Utf8.encode start) data =
      firstOccurrence? (Utf8.encode start) (data.drop 0) := rfl
  unfold findBlob
  rw [hwhole]
  cases hfirst : firstOccurrence? (Utf8.encode start) (data.drop 0) with
  | none => exact .noStart (firstOccurrence?_drop_eq_none_iff.mp hfirst)
  | some first =>
    have hleast := firstOccurrence?_drop_eq_some_iff.mp hfirst
    rw [Nat.zero_add] at hleast
    dsimp only
    cases hlast : firstOccurrence? (Utf8.encode finish) (data.drop first) with
    | none => exact .noEnd hleast (firstOccurrence?_drop_eq_none_iff.mp hlast)
    | some last =>
      have hclose := firstOccurrence?_drop_eq_some_iff.mp hlast
      have hextract : (data.drop first).take (last + (Utf8.encode finish).length) =
          data.extract first (first + last + (Utf8.encode finish).length) := by
        rw [List.extract_eq_take_drop]
        congr 1
        omega
      dsimp only
      rw [hextract]
      exact .blob hleast hclose

/-! ### What is found -/

theorem IsFound.exists_of_ok {blob : Bytes} (h : IsFound skip data start finish (.ok blob)) :
    ∃ first last, IsLeast (places (Utf8.encode start) data 0) first ∧
      IsLeast (places (Utf8.encode finish) data (first + skip)) last ∧
      blob = data.extract first (last + (Utf8.encode finish).length) := by
  generalize hresult : Except.ok blob = result at h
  cases h with
  | noStart => cases hresult
  | noEnd => cases hresult
  | @blob first last hfirst hlast => exact ⟨first, last, hfirst, hlast, by injection hresult⟩

theorem extract_eq_append {first last : Nat} {part : Bytes} (hle : first ≤ last)
    (h : part <+: data.drop last) :
    data.extract first (last + part.length) = data.extract first last ++ part := by
  have hdrop : (data.drop first).drop (last - first) = data.drop last := by
    rw [List.drop_drop, Nat.add_sub_cancel' hle]
  simp only [List.extract_eq_take_drop]
  rw [Nat.sub_add_comm hle, List.take_add, hdrop, ← List.prefix_iff_eq_take.mp h]

theorem length_extract {first last : Nat} {part : Bytes} (hempty : part ≠ [])
    (h : last ∈ places part data first) :
    (data.extract first (last + part.length)).length = last + part.length - first := by
  have hlength := length_of_mem_places hempty h
  rw [List.extract_eq_take_drop, List.length_take, List.length_drop]
  omega

theorem exists_of_findBlob {blob : Bytes} (h : findBlob data start finish = .ok blob) :
    ∃ first last, IsLeast (places (Utf8.encode start) data 0) first ∧
      IsLeast (places (Utf8.encode finish) data first) last ∧
      blob = data.extract first (last + (Utf8.encode finish).length) := by
  have hfound := findBlob_isFound data start finish
  rw [h] at hfound
  exact hfound.exists_of_ok

/-- A blob ends with the whole end token, and begins with the whole start token unless it is
shorter. -/
theorem tokens_of_findBlob {blob : Bytes} (h : findBlob data start finish = .ok blob) :
    Utf8.encode finish <:+ blob ∧
      (Utf8.encode start <+: blob ↔ (Utf8.encode start).length ≤ blob.length) := by
  obtain ⟨first, last, hfirst, hlast, rfl⟩ := exists_of_findBlob h
  refine ⟨?_, List.IsPrefix.length_le, fun hlength => ?_⟩
  · rw [extract_eq_append hlast.1.1 hlast.1.2]
    exact List.suffix_append _ _
  · refine List.prefix_of_prefix_length_le hfirst.1.2 ?_ hlength
    rw [List.extract_eq_take_drop]
    exact List.take_prefix _ _

/-! ### Behind the start token -/

/-- Where no end token begins in the start token, those from its beginning are those behind it. -/
theorem ApartIn.places_eq {first : Nat} (h : ApartIn data start finish)
    (hfirst : IsLeast (places (Utf8.encode start) data 0) first) :
    places (Utf8.encode finish) data (first + (Utf8.encode start).length) =
      places (Utf8.encode finish) data first :=
  Set.Subset.antisymm (places_subset (Nat.le_add_right _ _) _ _)
    fun n hn => ⟨h first hfirst n hn, hn.2⟩

theorem ApartIn.isFound (h : ApartIn data start finish)
    (hfound : IsFound 0 data start finish result) :
    IsFound (Utf8.encode start).length data start finish result := by
  cases hfound with
  | noStart hstart => exact .noStart hstart
  | noEnd hfirst hfinish =>
    refine .noEnd hfirst ?_
    rwa [h.places_eq hfirst]
  | blob hfirst hlast =>
    refine .blob hfirst ?_
    rwa [h.places_eq hfirst]

theorem IsFound.apartIn (hfinish : finish ≠ [])
    (h : IsFound (Utf8.encode start).length data start finish result)
    (hfound : IsFound 0 data start finish result) : ApartIn data start finish := by
  intro first hfirst n hn
  have hempty : Utf8.encode finish ≠ [] := mt Utf8.encode_eq_nil_iff.mp hfinish
  cases hfound with
  | noStart hstart => exact absurd hfirst.1 (hstart ▸ Set.notMem_empty _)
  | noEnd hfirst' hnone =>
    rw [hfirst'.unique hfirst] at hnone
    exact absurd hn (hnone ▸ Set.notMem_empty _)
  | @blob first' last hfirst' hlast =>
    obtain rfl := hfirst'.unique hfirst
    obtain ⟨first', behind, hfirst', hbehind, hsame⟩ := h.exists_of_ok
    obtain rfl := hfirst'.unique hfirst
    rw [Nat.add_zero] at hlast
    have hlength := congrArg List.length hsame
    rw [length_extract hempty hlast.1,
      length_extract hempty (places_subset (Nat.le_add_right _ _) _ _ hbehind.1)] at hlength
    have hlow := hlast.1.1
    have hhigh := hbehind.1.1
    have hleast := hlast.2 hn
    omega

theorem isFound_length_iff (hfinish : finish ≠ []) :
    IsFound (Utf8.encode start).length data start finish (findBlob data start finish) ↔
      ApartIn data start finish :=
  ⟨fun h => h.apartIn hfinish (findBlob_isFound data start finish),
    fun h => h.isFound (findBlob_isFound data start finish)⟩

theorem TokensApart.apartIn (h : TokensApart start finish) (data : Bytes) :
    ApartIn data start finish := by
  intro first hfirst n hn
  by_contra hinside
  obtain ⟨k, rfl⟩ := Nat.exists_eq_add_of_le hn.1
  have htail : (Utf8.encode start).drop k <+: data.drop (first + k) := by
    rw [← List.drop_drop]
    exact hfirst.1.2.drop k
  have hnonempty : (Utf8.encode start).drop k ≠ [] := by
    rw [Ne, List.drop_eq_nil_iff]
    omega
  have hapart := h _ ((List.mem_tails _ _).mpr (List.drop_suffix k _)) hnonempty
  -- The rest of the start token and the end token begin at one place, so one begins with the other.
  exact (List.prefix_or_prefix_of_prefix htail hn.2).elim hapart.1 hapart.2

theorem tokensApart_of_forall (h : ∀ data, ApartIn data start finish) :
    TokensApart start finish := by
  intro tail htail hempty
  obtain ⟨before, hstart⟩ := (List.mem_tails _ _).mp htail
  -- Data that begin with the start token, and have an end token where its rest begins.
  have hmeet : ∀ after, Utf8.encode finish <+: tail ++ after → False := by
    intro after hafter
    have hfirst : IsLeast (places (Utf8.encode start) (Utf8.encode start ++ after) 0) 0 :=
      isLeast_places_zero (List.prefix_append _ _)
    have hat : before.length ∈ places (Utf8.encode finish) (Utf8.encode start ++ after) 0 := by
      refine ⟨Nat.zero_le _, ?_⟩
      rwa [← hstart, List.append_assoc, List.drop_left]
    have hbehind := h _ 0 hfirst _ hat
    rw [← hstart, List.length_append] at hbehind
    have hpos := List.length_pos_iff.mpr hempty
    omega
  constructor
  · rintro ⟨after, hafter⟩
    exact hmeet after (hafter ▸ List.prefix_rfl)
  · intro hfinish
    exact hmeet [] (by rwa [List.append_nil])

theorem forall_apartIn_iff : (∀ data, ApartIn data start finish) ↔ TokensApart start finish :=
  ⟨tokensApart_of_forall, fun h data => h.apartIn data⟩

example : ¬TokensApart "SMAP".toList "P*".toList := by decide

theorem ApartIn.length_le {blob : Bytes} (hapart : ApartIn data start finish)
    (hfinish : finish ≠ []) (h : findBlob data start finish = .ok blob) :
    (Utf8.encode start).length + (Utf8.encode finish).length ≤ blob.length := by
  obtain ⟨first, last, hfirst, hlast, rfl⟩ := exists_of_findBlob h
  have hbehind := hapart first hfirst last hlast.1
  rw [length_extract (mt Utf8.encode_eq_nil_iff.mp hfinish) hlast.1]
  omega

/-- What is found between two tokens: a blob from the first start token to the end of the first end
token from its beginning on.  It is the blob to the first end token behind the start token, and has
room for both, exactly if no end token begins in the start token; whatever the data are, that is so
for tokens that cannot share bytes in this order. -/
theorem findBlob_tokens (start finish : Text) (hfinish : finish ≠ []) :
    (∀ data,
      IsFound 0 data start finish (findBlob data start finish) ∧
      (IsFound (Utf8.encode start).length data start finish (findBlob data start finish) ↔
        ApartIn data start finish) ∧
      ∀ blob, findBlob data start finish = .ok blob →
        Utf8.encode finish <:+ blob ∧
        (Utf8.encode start <+: blob ↔ (Utf8.encode start).length ≤ blob.length) ∧
        (ApartIn data start finish →
          (Utf8.encode start).length + (Utf8.encode finish).length ≤ blob.length)) ∧
    ((∀ data, IsFound (Utf8.encode start).length data start finish (findBlob data start finish)) ↔
      TokensApart start finish) := by
  refine ⟨fun data => ⟨findBlob_isFound data start finish, isFound_length_iff hfinish, ?_⟩, ?_⟩
  · intro blob hblob
    obtain ⟨hend, hbegin⟩ := tokens_of_findBlob hblob
    exact ⟨hend, hbegin, fun hapart => hapart.length_le hfinish hblob⟩
  · rw [← forall_apartIn_iff]
    exact forall_congr' fun data => isFound_length_iff hfinish

theorem findBlob_standardTokens : "*E".toList ≠ [] ∧ ∀ data,
    IsFound 4 data "SMAP".toList "*E".toList (findBlob data "SMAP".toList "*E".toList) :=
  ⟨by decide, (findBlob_tokens "SMAP".toList "*E".toList (by decide)).2.mpr (by decide)⟩

/-- An end token that is part of the start token is found there, and ends the blob early. -/
theorem not_forall_isFound_length : ¬∀ (data : Bytes) (start finish : Text), start ≠ [] →
    finish ≠ [] →
    IsFound (Utf8.encode start).length data start finish (findBlob data start finish) := by
  intro h
  have hapart := (isFound_length_iff (by decide)).mp
    (h (Utf8.encode "SMAP\nMA".toList) "SMAP".toList "MA".toList (by decide) (by decide))
  have hbehind := hapart 0 ⟨⟨le_rfl, by decide⟩, fun _ _ => Nat.zero_le _⟩ 1 ⟨by decide, by decide⟩
  revert hbehind
  decide

end TemplateMap
