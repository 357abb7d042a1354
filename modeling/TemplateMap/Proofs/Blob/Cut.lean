import TemplateMap.Extraction
import TemplateMap.Proofs.Blob.Tokens

/-! Blobs in data that are continued or cut off.  What comes behind a blob does not change it, and
what is found in the first bytes of data is found in all of them.  The search needs the blob and the
whole start token before it, so a cut behind the blob leaves it exactly if the blob has the whole
start token. -/

namespace TemplateMap

variable {data blob : Bytes} {start finish : Text} {first last : Nat}

theorem findBlob_append_of_ok (h : findBlob data start finish = .ok blob) (after : Bytes) :
    findBlob (data ++ after) start finish = .ok blob := by
  unfold findBlob at h
  cases hfirst : firstOccurrence? (Utf8.encode start) data with
  | none => simp [hfirst] at h
  | some first =>
    cases hlast : firstOccurrence? (Utf8.encode finish) (data.drop first) with
    | none => simp [hfirst, hlast] at h
    | some last =>
      have hwithin := length_of_firstOccurrence? hlast
      have hstart := Nat.le_of_add_right_le (length_of_firstOccurrence? hfirst)
      simp only [hfirst, hlast] at h
      rw [findBlob, firstOccurrence?_append hfirst]
      simp only
      rw [List.drop_append_of_le_length hstart, firstOccurrence?_append hlast]
      simp only
      rw [List.take_append_of_le_length hwithin, h]

theorem findBlob_of_take {k : Nat} (h : findBlob (data.take k) start finish = .ok blob) :
    findBlob data start finish = .ok blob := by
  have happend := findBlob_append_of_ok h (data.drop k)
  rwa [List.take_append_drop] at happend

theorem findBlob_take_of_error {e : TierError} (h : findBlob data start finish = .error e)
    (k : Nat) : ∃ e', findBlob (data.take k) start finish = .error e' := by
  cases hcut : findBlob (data.take k) start finish with
  | error e' => exact ⟨e', rfl⟩
  | ok blob => exact nomatch h.symm.trans (findBlob_of_take hcut)

/-- A cut through the first start token leaves none, and one behind it that is not behind the end
token leaves no end. -/
theorem findBlob_take_of_isLeast (hfirst : IsLeast (places (Utf8.encode start) data 0) first)
    (hlast : IsLeast (places (Utf8.encode finish) data first) last) (k : Nat) :
    findBlob (data.take k) start finish =
      if k < first + (Utf8.encode start).length then .error (.noStartToken start)
      else if k < last + (Utf8.encode finish).length then
        .error (.noEndToken start finish first)
      else .ok (data.extract first (last + (Utf8.encode finish).length)) := by
  obtain ⟨close, rfl⟩ := Nat.exists_eq_add_of_le hlast.1.1
  have hstart : firstOccurrence? (Utf8.encode start) data = some first :=
    firstOccurrence?_drop_eq_some_iff.mpr ((Nat.zero_add first).symm ▸ hfirst)
  have hfinish : firstOccurrence? (Utf8.encode finish) (data.drop first) = some close :=
    firstOccurrence?_drop_eq_some_iff.mpr hlast
  rw [findBlob, firstOccurrence?_take, hstart]
  by_cases hopened : first + (Utf8.encode start).length ≤ k
  · rw [Option.filter_some_pos (by simpa using hopened), if_neg (Nat.not_lt.mpr hopened)]
    simp only
    rw [List.drop_take, firstOccurrence?_take, hfinish]
    by_cases hclosed : close + (Utf8.encode finish).length ≤ k - first
    · rw [Option.filter_some_pos (by simpa using hclosed), if_neg (by omega)]
      simp only
      rw [List.take_take, Nat.min_eq_left hclosed, List.extract_eq_take_drop]
      congr 3
      omega
    · rw [Option.filter_some_neg (by simpa using hclosed), if_pos (by omega)]
  · rw [Option.filter_some_neg (by simpa using hopened), if_pos (Nat.not_le.mp hopened)]

/-- A blob is found in all data cut off at its end or behind it exactly if it has the whole start
token. -/
theorem forall_findBlob_take_iff (hfinish : finish ≠ [])
    (hfirst : IsLeast (places (Utf8.encode start) data 0) first)
    (hlast : IsLeast (places (Utf8.encode finish) data first) last)
    (hblob : blob = data.extract first (last + (Utf8.encode finish).length))
    (hfound : findBlob data start finish = .ok blob) :
    (∀ k, last + (Utf8.encode finish).length ≤ k →
      findBlob (data.take k) start finish = .ok blob) ↔ Utf8.encode start <+: blob := by
  have hlength := length_extract (mt Utf8.encode_eq_nil_iff.mp hfinish) hlast.1
  rw [← hblob] at hlength
  rw [(tokens_of_findBlob hfound).2, hlength]
  have hbegin := hlast.1.1
  constructor
  · intro hcut
    by_contra hshort
    -- A start token that is longer than the blob is cut through at the end of the blob.
    have hend := hcut _ le_rfl
    rw [findBlob_take_of_isLeast hfirst hlast, if_pos (by omega)] at hend
    cases hend
  · intro hwhole k hk
    rw [findBlob_take_of_isLeast hfirst hlast, if_neg (by omega), if_neg (by omega), hblob]

/-- The source with only the first `k` bytes of its artifact. -/
def Source.cut (source : Source) (k : Nat) : Source :=
  { source with artifact := source.artifact.map (·.take k) }

namespace Extractor

/-- A cut artifact has the table of the whole one or none. -/
theorem embeddedBlob_cut {config : Config} {source : Source} {k : Nat} {table : Table}
    (h : ((embeddedBlob config).extract (source.cut k)).result = .ok table) :
    ((embeddedBlob config).extract source).result = .ok table := by
  cases hartifact : source.artifact with
  | none => simp [embeddedBlob, Source.cut, hartifact, quiet] at h
  | some bytes =>
    simp only [embeddedBlob, Source.cut, hartifact, Option.map_some, quiet] at h ⊢
    cases hcut : findBlob (bytes.take k) config.blobStart config.blobEnd with
    | error e => simp [hcut, Except.map, ofBlob] at h
    | ok blob =>
      rw [hcut] at h
      rwa [findBlob_of_take hcut]

end Extractor

/-- What is found in data that are continued or cut off.  More bytes do not change a blob.  A cut of
the data has the blob if neither the first start token nor the blob reaches behind the cut, and else
no blob; so the cuts at the end of the blob and behind it all have it exactly if it has the whole
start token.  A cut of data without a blob has none.  So a cut artifact has the table of the whole
one or none. -/
theorem findBlob_take (data : Bytes) (start finish : Text) (hfinish : finish ≠ []) :
    (∀ blob, findBlob data start finish = .ok blob →
      (∀ after, findBlob (data ++ after) start finish = .ok blob) ∧
      ∃ first last, IsLeast (places (Utf8.encode start) data 0) first ∧
        IsLeast (places (Utf8.encode finish) data first) last ∧
        blob = data.extract first (last + (Utf8.encode finish).length) ∧
        (∀ k, findBlob (data.take k) start finish =
          if k < first + (Utf8.encode start).length then .error (.noStartToken start)
          else if k < last + (Utf8.encode finish).length then
            .error (.noEndToken start finish first)
          else .ok blob) ∧
        ((∀ k, last + (Utf8.encode finish).length ≤ k →
          findBlob (data.take k) start finish = .ok blob) ↔ Utf8.encode start <+: blob)) ∧
    (∀ e, findBlob data start finish = .error e →
      ∀ k, ∃ e', findBlob (data.take k) start finish = .error e') ∧
    ∀ (config : Config) (source : Source) (k : Nat) (table : Table),
      ((Extractor.embeddedBlob config).extract (source.cut k)).result = .ok table →
        ((Extractor.embeddedBlob config).extract source).result = .ok table := by
  refine ⟨fun blob hfound => ?_, fun e => findBlob_take_of_error,
    fun config source k table => Extractor.embeddedBlob_cut⟩
  obtain ⟨first, last, hfirst, hlast, hblob⟩ := exists_of_findBlob hfound
  refine ⟨findBlob_append_of_ok hfound, first, last, hfirst, hlast, hblob, fun k => ?_,
    forall_findBlob_take_iff hfinish hfirst hlast hblob hfound⟩
  rw [hblob]
  exact findBlob_take_of_isLeast hfirst hlast k

/-- The end token begins in the start token, and the blob has both. -/
theorem findBlob_take_sharing : "P*E".toList ≠ [] ∧
    let data := Utf8.encode "SMAP*E\n".toList
    let find (k : Nat) := findBlob (data.take k) "SMAP".toList "P*E".toList
    (∀ k, 6 ≤ k → find k = .ok (Utf8.encode "SMAP*E".toList)) ∧
      find 5 = .error (.noEndToken "SMAP".toList "P*E".toList 0) ∧
      find 3 = .error (.noStartToken "SMAP".toList) := by
  refine ⟨by decide, ?_⟩
  intro data find
  have hfound : findBlob data "SMAP".toList "P*E".toList =
      .ok (Utf8.encode "SMAP*E".toList) := by decide
  obtain ⟨-, first, last, hfirst, hlast, -, hcut, hwhole⟩ :=
    (findBlob_take data "SMAP".toList "P*E".toList (by decide)).1 _ hfound
  obtain rfl := hfirst.unique (isLeast_places_zero (by decide))
  have hend : IsLeast (places (Utf8.encode "P*E".toList) data 0) (0 + 3) :=
    firstOccurrence?_drop_eq_some_iff.mp (by decide)
  obtain rfl := hlast.unique hend
  exact ⟨fun k hk => hwhole.mpr (by decide) k (le_trans (by decide) hk), hcut 5, hcut 3⟩

/-- A blob that ends in the start token is lost where the data are cut at its end. -/
theorem not_forall_findBlob_take : ¬∀ (data : Bytes) (start finish : Text) (first last k : Nat),
    start ≠ [] → finish ≠ [] → IsLeast (places (Utf8.encode start) data 0) first →
    IsLeast (places (Utf8.encode finish) data first) last → k ≤ data.length →
    last + (Utf8.encode finish).length ≤ k →
    findBlob (data.take k) start finish = findBlob data start finish := by
  intro h
  have hend : IsLeast (places (Utf8.encode "MA".toList) (Utf8.encode "SMAP".toList) 0) (0 + 1) :=
    firstOccurrence?_drop_eq_some_iff.mp (by decide)
  have hsame := h (Utf8.encode "SMAP".toList) "SMAP".toList "MA".toList 0 1 3 (by decide)
    (by decide) (isLeast_places_zero (by decide)) hend (by decide) (by decide)
  revert hsame
  decide

end TemplateMap
