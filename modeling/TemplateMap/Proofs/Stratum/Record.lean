import TemplateMap.Proofs.Stratum.Grammar
import TemplateMap.Proofs.Text.Ascii
import TemplateMap.Text.Basic

/-! The characters of line records: ids and numbers have ASCII letters and digits only, and so a
record is ASCII. -/

namespace TemplateMap.Stratum

variable {t : Text} {c : Char}

theorem toNat_of_isIdChar (h : isIdChar c = true) :
    (65 ≤ c.toNat ∧ c.toNat ≤ 90) ∨ (97 ≤ c.toNat ∧ c.toNat ≤ 122) ∨
      (48 ≤ c.toNat ∧ c.toNat ≤ 57) := by
  change ((decide (65 ≤ c.val ∧ c.val ≤ 90) || (97 ≤ c.val && c.val ≤ 122)) ||
    (48 ≤ c.val && c.val ≤ 57)) = true at h
  simp only [Bool.or_eq_true, Bool.and_eq_true, decide_eq_true_eq, UInt32.le_iff_toNat_le,
    or_assoc] at h
  exact h

theorem isBlank_of_isIdChar (h : isIdChar c = true) : isBlank c = false := by
  have hranges := toNat_of_isIdChar h
  simp only [isBlank, Bool.or_eq_false_iff, Bool.and_eq_false_iff, decide_eq_false_iff_not,
    beq_eq_false_iff_ne]
  omega

theorem isIdChar_of_isFileId (h : isFileId t = true) : ∀ c ∈ t, isIdChar c = true :=
  List.all_eq_true.mp (Bool.and_eq_true_iff.mp h).2

theorem exists_cons_of_isFileId (h : isFileId t = true) :
    ∃ c rest, t = c :: rest ∧ isIdChar c = true := by
  have hne : t ≠ [] := by simpa using (Bool.and_eq_true_iff.mp h).1
  obtain ⟨c, rest, rfl⟩ := List.exists_cons_of_ne_nil hne
  exact ⟨c, rest, rfl, isIdChar_of_isFileId h c List.mem_cons_self⟩

theorem ascii_of_isIdChar (h : ∀ c ∈ t, isIdChar c = true) : IsAscii t := fun c hc => by
  have := toNat_of_isIdChar (h c hc)
  omega

theorem IsRecord.forall_mem {s : Segment} {P : Char → Prop} (h : IsRecord t s)
    (hid : ∀ c, isIdChar c = true → P c) (hcolon : P ':') (hcomma : P ',') (hsign : P '#') :
    ∀ c ∈ t, P c := by
  obtain ⟨hstart, hfile, hcount, hgenerated, hstride, -, -⟩ := h
  have hnumber : ∀ t n, IsNumber t n → ∀ c ∈ t, P c := fun t n ht c hc =>
    hid c (by simp [isIdChar, Char.isAlphanum, ht.digits c hc])
  have hname : ∀ t file, IsId t file → ∀ c ∈ t, P c := fun t file ht c hc =>
    hid c (ht.alphanum c hc)
  simp only [List.forall_mem_append, List.forall_mem_cons]
  exact ⟨⟨⟨hnumber _ _ hstart, hfile.forall_mem hsign hname⟩, hcount.forall_mem hcomma hnumber⟩,
    hcolon, hnumber _ _ hgenerated, hstride.forall_mem hcomma hnumber⟩

/-- Only ASCII lines are records. -/
theorem ascii_of_record? {s : Segment} (h : record? t = some s) : IsAscii t :=
  (isRecord_of_record? h).forall_mem
    (fun c hc => ascii_of_isIdChar (List.forall_mem_singleton.mpr hc) c List.mem_cons_self)
    (by decide) (by decide) (by decide)

end TemplateMap.Stratum
