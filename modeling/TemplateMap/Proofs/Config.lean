import TemplateMap.Config
import TemplateMap.Proofs.Loop

/-! Which configurations are taken: from a file, those that the reader finds in its text and that
keep the rules; from a command line, those whose tool has a word. -/

namespace TemplateMap.Config

variable {config c : Config} {files : FileSystem} {path : Path} {read : Text → Except Text Config}
  {words? : Text → Option (List Text)} {command : Text}

/-- The rules that a configuration keeps. -/
structure Valid (c : Config) : Prop where
  blobStart : c.blobStart ≠ []
  blobEnd : c.blobEnd ≠ []
  divisor : c.divisor ≠ 0
  boilerplateFraction :
    ∃ share, c.boilerplateFraction.value? = some share ∧ 0 ≤ share ∧ share ≤ 1
  maxToolOutput : c.maxToolOutput ≠ 0

theorem invalid?_eq_none_iff : c.invalid? = none ↔ c.Valid := by
  have hshare : (c.boilerplateFraction.value?.any fun share => 0 ≤ share && share ≤ 1) = true ↔
      ∃ share, c.boilerplateFraction.value? = some share ∧ 0 ≤ share ∧ share ≤ 1 := by
    cases c.boilerplateFraction.value? <;> simp
  unfold invalid?
  constructor
  · intro h
    split at h
    next => cases h
    next htokens =>
      split at h
      next => cases h
      next hdivisor =>
        split at h
        next => cases h
        next hfraction =>
          split at h
          next => cases h
          next hlimit =>
            simp only [Bool.or_eq_true, List.isEmpty_iff, not_or] at htokens
            exact ⟨htokens.1, htokens.2, hdivisor, hshare.mp (by simpa using hfraction), hlimit⟩
  · intro h
    simp [h.blobStart, h.blobEnd, h.divisor, hshare.mpr h.boilerplateFraction, h.maxToolOutput]

/-- The file at a path holds a configuration: it can be read and is UTF-8, the reader finds the
configuration in its text, and the configuration keeps the rules. -/
def IsIn (read : Text → Except Text Config) (files : FileSystem) (path : Path) (c : Config) :
    Prop :=
  ∃ bytes text, files.read path = .ok bytes ∧ Utf8.decode? bytes = some text ∧
    read text = .ok c ∧ c.Valid

theorem load_eq_ok_iff : load read files path = .ok c ↔ c.IsIn read files path := by
  constructor
  · intro h
    obtain ⟨bytes, hbytes, h⟩ := Loop.bind_eq_ok_iff.mp h
    cases htext : Utf8.decode? bytes with
    | none =>
      rw [htext] at h
      cases h
    | some text =>
      rw [htext] at h
      obtain ⟨d, hread, h⟩ := Loop.bind_eq_ok_iff.mp h
      split at h
      next => cases h
      next hvalid =>
        obtain rfl := Except.ok.inj h
        exact ⟨bytes, text, Loop.mapError_eq_ok_iff.mp hbytes, htext,
          Loop.mapError_eq_ok_iff.mp hread, invalid?_eq_none_iff.mp hvalid⟩
  · rintro ⟨bytes, text, hbytes, htext, hread, hvalid⟩
    have hnone : c.invalid? = none := invalid?_eq_none_iff.mpr hvalid
    unfold load
    refine Loop.bind_eq_ok_iff.mpr ⟨bytes, Loop.mapError_eq_ok_iff.mpr hbytes, ?_⟩
    rw [htext]
    refine Loop.bind_eq_ok_iff.mpr ⟨c, Loop.mapError_eq_ok_iff.mpr hread, ?_⟩
    rw [hnone]
    rfl

/-- A tool is taken if it has a word. -/
theorem withToolCommand_eq_ok_iff :
    config.withToolCommand words? command = .ok c ↔
      ∃ words, words? command = some words ∧ words ≠ [] ∧
        { config with toolCommand := words } = c := by
  unfold withToolCommand
  split
  next hnone => exact iff_of_false nofun fun ⟨_, hsome, _⟩ => nomatch hnone.symm.trans hsome
  next hempty =>
    refine iff_of_false nofun fun ⟨words, hsome, hwords, _⟩ => ?_
    exact hwords (Option.some.inj (hsome.symm.trans hempty))
  next words hne hwords =>
    rw [hwords, Except.ok.injEq]
    refine ⟨fun h => ⟨words, rfl, hne, h⟩, ?_⟩
    rintro ⟨given, hgiven, -, h⟩
    rwa [Option.some.inj hgiven]

theorem withToolCommand_eq_error {e : ConfigError}
    (h : config.withToolCommand words? command = .error e) :
    e = .unreadableToolCommand command ∨ e = .emptyToolCommand := by
  unfold withToolCommand at h
  split at h
  next => exact .inl (Except.error.inj h).symm
  next => exact .inr (Except.error.inj h).symm
  next => cases h

end TemplateMap.Config
