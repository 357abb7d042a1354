import TemplateMap.Proofs.Text.Occurrence
import TemplateMap.Proofs.Text.Runs
import TemplateMap.Template

/-! Base names: what follows the last separator of a path, whichever separators the path has.  A
candidate names a template exactly when the two have the same base name, white space around the
candidate apart; it names the template at all when the name of the template occurs in it.  And the
extensions that the source of an artifact can be given: all those without a path separator. -/

namespace TemplateMap

/-! ### What follows the last separator -/

namespace Text

variable {p : Char → Bool} {t name : Text}

theorem afterLast_append {before : Text} (hbefore : ∀ c ∈ before.getLast?, p c = true)
    (hname : ∀ c ∈ name, p c = false) : (before ++ name).afterLast p = name := by
  have hrun : ∀ c ∈ name.reverse, (!p c) = true := fun c hc => by
    simp [hname c (List.mem_reverse.mp hc)]
  have hrest : ∀ c ∈ before.reverse.head?, (!p c) = false := fun c hc => by
    rw [List.head?_reverse] at hc
    simp [hbefore c hc]
  rw [afterLast, List.reverse_append, takeWhile_append_run hrun hrest, List.reverse_reverse]

theorem afterLast_eq_iff :
    t.afterLast p = name ↔
      ∃ before, t = before ++ name ∧ (∀ c ∈ before.getLast?, p c = true) ∧
        ∀ c ∈ name, p c = false := by
  constructor
  · rintro rfl
    obtain ⟨hsplit, hrun, hrest⟩ :=
      of_span_eq (List.span_eq_takeWhile_dropWhile (fun c => !p c) t.reverse)
    refine ⟨(t.reverse.dropWhile fun c => !p c).reverse, ?_, fun c hc => ?_, fun c hc => ?_⟩
    · rw [afterLast, ← List.reverse_append, ← hsplit, List.reverse_reverse]
    · rw [List.getLast?_reverse] at hc
      simpa using hrest c hc
    · simpa using hrun c (List.mem_reverse.mp hc)
  · rintro ⟨before, rfl, hbefore, hname⟩
    exact afterLast_append hbefore hname

theorem swap_eq_self {a : Char} (h : a ∉ t) (b : Char) : t.swap a b = t := by
  have hsame : ∀ c ∈ t, (if c = a then b else c) = c := fun c hc =>
    if_neg (ne_of_mem_of_not_mem hc h)
  exact (List.map_congr_left hsame).trans (List.map_id t)

/-- One separator in place of another leaves what follows the last one. -/
theorem afterLast_swap {a b : Char} (ha : p a = true) (hb : p b = true) (t : Text) :
    (t.swap a b).afterLast p = t.afterLast p := by
  obtain ⟨before, hsplit, hbefore, hname⟩ := afterLast_eq_iff.mp (Eq.refl (t.afterLast p))
  refine afterLast_eq_iff.mpr ⟨before.swap a b, ?_, fun c hc => ?_, hname⟩
  · have hnotMem : a ∉ t.afterLast p := fun hmem =>
      Bool.false_ne_true ((hname a hmem).symm.trans ha)
    calc t.swap a b = (before ++ t.afterLast p).swap a b := congrArg (swap a b) hsplit
      _ = before.swap a b ++ (t.afterLast p).swap a b := List.map_append
      _ = before.swap a b ++ t.afterLast p := by rw [swap_eq_self hnotMem]
  · rw [swap, List.getLast?_map] at hc
    obtain ⟨d, hd, rfl⟩ := Option.map_eq_some_iff.mp hc
    split
    · exact hb
    · exact hbefore d hd

end Text

/-- `name` is the base name of `path`: it has no separator, and what is before it in the path is
nothing or ends with one. -/
def IsBaseName (name path : Text) : Prop :=
  ∃ before, path = before ++ name ∧ (∀ c ∈ before.getLast?, isSeparator c = true) ∧
    ∀ c ∈ name, isSeparator c = false

namespace Template

variable {t : Template} {path name : Text}

theorem ofPath_name_eq_iff : (ofPath path).name = name ↔ IsBaseName name path :=
  Text.afterLast_eq_iff

theorem ofPath_isBaseName (path : Text) : IsBaseName (ofPath path).name path :=
  ofPath_name_eq_iff.mp rfl

theorem ofPath_swap (path : Text) : ofPath (path.swap '\\' '/') = ofPath path :=
  congrArg Template.mk (Text.afterLast_swap rfl rfl path)

/-! ### The quality of a match -/

/-- In a path without backslashes the base name is the whole path or follows a slash. -/
theorem isBaseName_iff (hpath : '\\' ∉ path) (hname : ∀ c ∈ name, isSeparator c = false) :
    IsBaseName name path ↔ path = name ∨ '/' :: name <:+ path := by
  constructor
  · rintro ⟨before, rfl, hbefore, -⟩
    rcases List.eq_nil_or_concat before with rfl | ⟨directory, c, rfl⟩
    · exact .inl rfl
    · have hc : isSeparator c = true := hbefore c (by simp)
      have hslash : c = '/' := by
        have hne : c ≠ '\\' := by
          rintro rfl
          simp at hpath
        simpa [isSeparator, hne] using hc
      exact .inr ⟨directory, by simp [hslash]⟩
  · rintro (rfl | ⟨directory, rfl⟩)
    · exact ⟨[], rfl, nofun, hname⟩
    · refine ⟨directory ++ ['/'], by simp, fun c hc => ?_, hname⟩
      obtain rfl : '/' = c := by simpa using hc
      rfl

theorem backslash_notMem_swap (t : Text) : '\\' ∉ t.swap '\\' '/' := by
  intro h
  obtain ⟨c, -, hc⟩ := List.mem_map.mp h
  split at hc
  next => cases hc
  next hne => exact hne hc

/-- That a candidate is empty need not be asked: no name ends or occurs in it. -/
theorem matchName_eq (hempty : t.name ≠ []) (candidate : Text) :
    let slashed := candidate.trim.swap '\\' '/'
    t.matchName candidate =
      if slashed = t.name ∨ '/' :: t.name <:+ slashed then .exact
      else if occursIn t.name slashed then .contains
      else .none := by
  intro slashed
  by_cases hnil : slashed = []
  · have hforeign : ¬(slashed = t.name ∨ '/' :: t.name <:+ slashed) := by
      simp [hnil, hempty.symm]
    have hnone : occursIn t.name slashed = false := by
      simp [hnil, occursIn, firstOccurrence?, hempty]
    rw [if_neg hforeign, if_neg (by simp [hnone])]
    simp [matchName, slashed, hnil]
  · simp [matchName, slashed, hempty, hnil]

/-- A candidate matches a name without separators exactly if that is its base name. -/
theorem matchName_eq_exact_iff (hempty : t.name ≠ []) (hname : ∀ c ∈ t.name, isSeparator c = false)
    (candidate : Text) :
    t.matchName candidate = .exact ↔ (ofPath candidate.trim).name = t.name := by
  rw [← ofPath_swap, ofPath_name_eq_iff, isBaseName_iff (backslash_notMem_swap _) hname,
    matchName_eq hempty]
  split
  next h => simp [h]
  next h => split <;> simp [h]

/-- A candidate matches at all if the name occurs in it. -/
theorem matchName_ne_none_iff (hempty : t.name ≠ []) (candidate : Text) :
    t.matchName candidate ≠ .none ↔ t.name <:+: candidate.trim.swap '\\' '/' := by
  rw [matchName_eq hempty, ← occursIn_iff]
  split
  next h =>
    have hoccurs : t.name <:+: candidate.trim.swap '\\' '/' := by
      rcases h with h | h
      · rw [h]
      · exact ((List.suffix_cons '/' t.name).trans h).isInfix
    simp [occursIn_iff.mpr hoccurs]
  next => cases occursIn t.name (candidate.trim.swap '\\' '/') <;> simp

theorem matchName_eq_none (h : t.name = []) (candidate : Text) :
    t.matchName candidate = .none := by
  simp [matchName, h]

/-- The name of the template of a path is the base name of the path.  If it is empty nothing matches
it.  Otherwise a candidate, less the white space around it, matches exactly if it has the same base
name, and in part if it has another one but the name occurs in it once its backslashes are
slashes. -/
theorem matchName_ofPath (path candidate : Text) :
    let t := ofPath path
    let base := (ofPath candidate.trim).name
    let slashed := candidate.trim.swap '\\' '/'
    IsBaseName t.name path ∧
    (t.name = [] → t.matchName candidate = .none) ∧
    (t.name ≠ [] →
      (t.matchName candidate = .exact ↔ base = t.name) ∧
      (t.matchName candidate = .contains ↔ base ≠ t.name ∧ t.name <:+: slashed) ∧
      (t.matchName candidate = .none ↔ base ≠ t.name ∧ ¬ t.name <:+: slashed)) := by
  intro t base slashed
  have hbase : IsBaseName t.name path := ofPath_isBaseName path
  refine ⟨hbase, fun hempty => matchName_eq_none hempty candidate, fun hempty => ?_⟩
  obtain ⟨-, -, -, hname⟩ := hbase
  have hexact : t.matchName candidate = .exact ↔ base = t.name :=
    matchName_eq_exact_iff hempty hname candidate
  have hsome : t.matchName candidate ≠ .none ↔ t.name <:+: slashed :=
    matchName_ne_none_iff hempty candidate
  rw [ne_eq, ← hexact, ← hsome]
  cases t.matchName candidate <;> decide

/-- A path with separators of both kinds matches through the last of them, whichever it is; one at
the end leaves a match in part, and a template without a name has none. -/
theorem mixed_matchName_ofPath :
    (ofPath "/srv\\ui/index.jsp".toList).name ≠ [] ∧
    (ofPath "/srv\\ui/index.jsp".toList).matchName " views/en\\index.jsp\t".toList = .exact ∧
    (ofPath "/srv\\ui/index.jsp".toList).matchName "views\\index.jsp/".toList = .contains ∧
    (ofPath "/srv\\ui/index.jsp".toList).matchName "views\\header.jsp".toList = .none ∧
    (ofPath "ui\\".toList).name = [] ∧
    (ofPath "ui\\".toList).matchName "ui\\".toList = .none := by
  have hname : (ofPath "/srv\\ui/index.jsp".toList).name ≠ [] := by decide
  have hempty : (ofPath "ui\\".toList).name = [] := by decide
  obtain ⟨hexact, -, -⟩ := (matchName_ofPath _ " views/en\\index.jsp\t".toList).2.2 hname
  obtain ⟨-, hpart, -⟩ := (matchName_ofPath _ "views\\index.jsp/".toList).2.2 hname
  obtain ⟨-, -, hnone⟩ := (matchName_ofPath _ "views\\header.jsp".toList).2.2 hname
  exact ⟨hname, hexact.mpr (by decide), hpart.mpr (by decide), hnone.mpr (by decide), hempty,
    (matchName_ofPath _ _).2.1 hempty⟩

end Template

/-! ### The extension of a generated source -/

section Extension

variable {path : Path} {extension : Text}

theorem Path.withExtension_of_mem (h : '/' ∈ extension) (path : Path) :
    withExtension path extension = .error (.holdsSeparator extension) :=
  if_pos (List.contains_iff_mem.mpr h)

theorem Path.exists_withExtension_of_notMem (h : '/' ∉ extension) (path : Path) :
    ∃ changed, withExtension path extension = .ok changed := by
  have hcontains : ¬ extension.contains '/' := mt List.contains_iff_mem.mp h
  simp only [withExtension, if_neg hcontains]
  split
  · exact ⟨_, rfl⟩
  · split
    · exact ⟨_, rfl⟩
    · split <;> exact ⟨_, rfl⟩

theorem Artifact.ofCompiled_of_mem (h : '/' ∈ extension) (compiled : Path) :
    ofCompiled compiled extension = .error (.holdsSeparator extension) := by
  rw [ofCompiled, Path.withExtension_of_mem h]
  rfl

theorem Artifact.exists_ofCompiled_of_notMem (h : '/' ∉ extension) (compiled : Path) :
    ∃ artifact, ofCompiled compiled extension = .ok artifact ∧ artifact.compiled = compiled := by
  obtain ⟨changed, hchanged⟩ := Path.exists_withExtension_of_notMem h compiled
  exact ⟨⟨compiled, changed⟩, by rw [ofCompiled, hchanged]; rfl, rfl⟩

end Extension

end TemplateMap
