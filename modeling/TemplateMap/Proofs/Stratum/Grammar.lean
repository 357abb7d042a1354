import TemplateMap.Proofs.Text.Fields
import TemplateMap.Stratum.Record

/-! The grammar of line records: `start[#file][,count]:generated[,stride]` with numbers up to
`lastLine` and file ids of ASCII letters and digits.  The reader, which cuts a line at the first
colon, comma and number sign that it meets, accepts the lines of the grammar and no others. -/

namespace TemplateMap.Stratum

variable {t : Text} {n : Nat} {c separator : Char}

/-! ### The grammar -/

/-- ASCII digits, leading zeros allowed, that write a number up to `lastLine`. -/
structure IsNumber (t : Text) (n : Nat) : Prop where
  nonempty : t ≠ []
  digits : ∀ c ∈ t, c.isDigit = true
  value : Nat.ofDigitChars 10 t 0 = n
  le : n ≤ lastLine

/-- ASCII letters and digits, at least one, as the file id that they are. -/
structure IsId (t : Text) (file : Option Text) : Prop where
  nonempty : t ≠ []
  alphanum : ∀ c ∈ t, c.isAlphanum = true
  eq : file = some t

/-- A field after its separator, or nothing in place of both, which says `missing`. -/
inductive IsOptional {α : Type} (separator : Char) (IsField : Text → α → Prop) (missing : α) :
    Text → α → Prop
  | absent : IsOptional separator IsField missing [] missing
  | given {field : Text} {a : α} (h : IsField field a) :
    IsOptional separator IsField missing (separator :: field) a

/-- A line that is a record, and the segment that it says.  A count of zero makes no record, and
neither does a stride of zero over several lines. -/
inductive IsRecord : Text → Segment → Prop
  | intro {startText fileText countText generatedText strideText : Text}
    {start count generated stride : Nat} {file : Option Text}
    (hstart : IsNumber startText start)
    (hfile : IsOptional '#' IsId none fileText file)
    (hcount : IsOptional ',' IsNumber 1 countText count)
    (hgenerated : IsNumber generatedText generated)
    (hstride : IsOptional ',' IsNumber 1 strideText stride)
    (count_ne : count ≠ 0) (stride_ne : stride ≠ 0 ∨ count = 1) :
    IsRecord (startText ++ fileText ++ countText ++ ':' :: (generatedText ++ strideText))
      (Segment.of start count generated stride file)

/-! ### Numbers and ids -/

theorem number?_eq_some_iff : number? t = some n ↔ IsNumber t n := by
  unfold number? Text.number?
  rw [Text.digitsValue_eq]
  split
  next h =>
    refine ⟨nofun, fun hnumber => absurd h ?_⟩
    simpa using ⟨hnumber.nonempty, hnumber.digits⟩
  next h =>
    obtain ⟨hne, hdigits⟩ : t ≠ [] ∧ ∀ c ∈ t, c.isDigit = true := by simpa using h
    split
    next hle =>
      rw [Option.some.injEq]
      exact ⟨fun hvalue => ⟨hne, hdigits, hvalue, hvalue ▸ hle⟩, IsNumber.value⟩
    next hlarge =>
      exact ⟨nofun, fun hnumber => absurd (hnumber.value ▸ hnumber.le) hlarge⟩

/-- The file id that a text is. -/
def id? (t : Text) : Option (Option Text) := if isFileId t then some (some t) else none

theorem id?_eq_some_iff {file : Option Text} : id? t = some file ↔ IsId t file := by
  have hid : isFileId t = true ↔ t ≠ [] ∧ ∀ c ∈ t, c.isAlphanum = true := by
    simp [isFileId, isIdChar]
  unfold id?
  split
  next h =>
    rw [Option.some.injEq]
    exact ⟨fun heq => ⟨(hid.mp h).1, (hid.mp h).2, heq.symm⟩, fun hfile => hfile.eq.symm⟩
  next h => exact ⟨nofun, fun hfile => absurd (hid.mpr ⟨hfile.nonempty, hfile.alphanum⟩) h⟩

theorem IsNumber.notMem (h : IsNumber t n) (hc : c.isDigit = false) : c ∉ t := fun hmem =>
  Bool.false_ne_true (hc.symm.trans (h.digits c hmem))

theorem IsId.notMem {file : Option Text} (h : IsId t file) (hc : c.isAlphanum = false) : c ∉ t :=
  fun hmem => Bool.false_ne_true (hc.symm.trans (h.alphanum c hmem))

/-! ### Optional fields -/

section Optional

variable {α β : Type} {head tail : Text} {a : α} {b missing : β}

theorem IsOptional.forall_mem {IsField : Text → β → Prop} {P : Char → Prop}
    (h : IsOptional separator IsField missing tail b) (hseparator : P separator)
    (hfield : ∀ t b, IsField t b → ∀ c ∈ t, P c) : ∀ c ∈ tail, P c := by
  cases h with
  | absent => exact nofun
  | given h => exact List.forall_mem_cons.mpr ⟨hseparator, hfield _ _ h⟩

theorem IsOptional.notMem {IsField : Text → β → Prop}
    (h : IsOptional separator IsField missing tail b) (hseparator : separator ≠ c)
    (hfield : ∀ t b, IsField t b → c ∉ t) : c ∉ tail := fun hmem =>
  h.forall_mem (P := (· ≠ c)) hseparator
    (fun t b ht _ hx => ne_of_mem_of_not_mem hx (hfield t b ht)) c hmem rfl

/-- A part and, after the first separator, a field; `missing` for the field when there is no
separator. -/
def withField? (separator : Char) (head? : Text → Option α) (field? : Text → Option β)
    (missing : β) (t : Text) : Option (α × β) :=
  match t.cut? (· = separator) with
  | some (head, field) => do return (← head? head, ← field? field)
  | none => do return (← head? t, missing)

/-- Where no part in front holds the separator, the first separator is the only place to cut. -/
theorem withField?_eq_some_iff {head? : Text → Option α} {field? : Text → Option β}
    (hhead : ∀ head a, head? head = some a → separator ∉ head) :
    withField? separator head? field? missing t = some (a, b) ↔
      ∃ head tail, t = head ++ tail ∧ head? head = some a ∧
        IsOptional separator (fun field b => field? field = some b) missing tail b := by
  unfold withField?
  constructor
  · intro h
    split at h
    next head field hcut =>
      obtain ⟨-, c, hc, rfl⟩ := Text.cut?_eq_some_iff.mp hcut
      obtain rfl : c = separator := of_decide_eq_true hc
      obtain ⟨ha, hb⟩ : head? head = some a ∧ field? field = some b := by
        simpa [Option.bind_eq_some_iff] using h
      exact ⟨head, _, rfl, ha, .given hb⟩
    next =>
      obtain ⟨ha, rfl⟩ : head? t = some a ∧ missing = b := by
        simpa [Option.bind_eq_some_iff] using h
      exact ⟨t, [], t.append_nil.symm, ha, .absent⟩
  · rintro ⟨head, tail, rfl, ha, htail⟩
    have hfree : ∀ c ∈ head, decide (c = separator) = false := fun c hc =>
      decide_eq_false (ne_of_mem_of_not_mem hc (hhead head a ha))
    cases htail with
    | absent => simp [Text.cut?_eq_none hfree, ha]
    | given hb => simp [Text.cut?_append_cons hfree, ha, hb]

end Optional

/-! ### Records -/

theorem numberPair?_eq_some_iff {m : Nat} :
    numberPair? t = some (n, m) ↔
      ∃ head tail, t = head ++ tail ∧ IsNumber head n ∧ IsOptional ',' IsNumber 1 tail m := by
  have hread : numberPair? t = withField? ',' number? number? 1 t := by
    unfold numberPair? withField?
    cases t.cut? (· = ',') <;> rfl
  have hhead : ∀ head n, number? head = some n → ',' ∉ head := fun _ _ h =>
    (number?_eq_some_iff.mp h).notMem (by decide)
  rw [hread, withField?_eq_some_iff hhead]
  simp only [number?_eq_some_iff]

theorem numberWithFile?_eq_some_iff {file : Option Text} :
    numberWithFile? t = some (n, file) ↔
      ∃ head tail, t = head ++ tail ∧ IsNumber head n ∧ IsOptional '#' IsId none tail file := by
  have hread : numberWithFile? t = withField? '#' number? id? none t := by
    unfold numberWithFile? withField? id?
    cases t.cut? (· = '#') with
    | none => rfl
    | some parts =>
      dsimp only
      split <;> simp
  have hhead : ∀ head n, number? head = some n → '#' ∉ head := fun _ _ h =>
    (number?_eq_some_iff.mp h).notMem (by decide)
  rw [hread, withField?_eq_some_iff hhead]
  simp only [number?_eq_some_iff, id?_eq_some_iff]

/-- A start with its file id holds no separator but the number sign. -/
theorem notMem_of_numberWithFile? {result : Nat × Option Text}
    (h : numberWithFile? t = some result) (hc : c.isAlphanum = false) (hne : '#' ≠ c) : c ∉ t := by
  obtain ⟨head, tail, rfl, hhead, htail⟩ := numberWithFile?_eq_some_iff.mp h
  have hdigit : c.isDigit = false := (Bool.or_eq_false_iff.mp hc).2
  rw [List.mem_append, not_or]
  exact ⟨hhead.notMem hdigit, htail.notMem hne fun _ _ hfile => hfile.notMem hc⟩

theorem source?_eq_some_iff {file : Option Text} {count : Nat} :
    source? t = some (n, file, count) ↔
      ∃ head middle tail, t = head ++ middle ++ tail ∧ IsNumber head n ∧
        IsOptional '#' IsId none middle file ∧ IsOptional ',' IsNumber 1 tail count := by
  have hread : source? t = some (n, file, count) ↔
      withField? ',' numberWithFile? number? 1 t = some ((n, file), count) := by
    unfold source? withField?
    cases t.cut? (· = ',') with
    | none => simp [Option.bind_eq_some_iff]
    | some parts => simp [Option.bind_eq_some_iff, and_comm]
  have hhead : ∀ head result, numberWithFile? head = some result → ',' ∉ head := fun _ _ h =>
    notMem_of_numberWithFile? h (by decide) (by decide)
  rw [hread, withField?_eq_some_iff hhead]
  simp only [numberWithFile?_eq_some_iff, number?_eq_some_iff]
  constructor
  · rintro ⟨_, tail, rfl, ⟨head, middle, rfl, hstart, hfile⟩, hcount⟩
    exact ⟨head, middle, tail, rfl, hstart, hfile, hcount⟩
  · rintro ⟨head, middle, tail, rfl, hstart, hfile, hcount⟩
    exact ⟨head ++ middle, tail, rfl, ⟨head, middle, rfl, hstart, hfile⟩, hcount⟩

theorem colon_notMem_of_source? {result : Nat × Option Text × Nat} (h : source? t = some result) :
    ':' ∉ t := by
  obtain ⟨head, middle, tail, rfl, hhead, hmiddle, htail⟩ := source?_eq_some_iff.mp h
  simp only [List.mem_append, not_or]
  refine ⟨⟨hhead.notMem (by decide), hmiddle.notMem (by decide) fun _ _ h => ?_⟩,
    htail.notMem (by decide) fun _ _ h => ?_⟩
  · exact h.notMem (by decide)
  · exact h.notMem (by decide)

section Record

variable {line : Text} {s : Segment}

theorem isRecord_of_record? (h : record? line = some s) : IsRecord line s := by
  simp only [record?, Option.bind_eq_bind, Option.bind_eq_some_iff] at h
  obtain ⟨⟨source, target⟩, hcut, ⟨start, file, count⟩, hsource, ⟨generated, stride⟩, htarget,
    h⟩ := h
  obtain ⟨-, c, hc, rfl⟩ := Text.cut?_eq_some_iff.mp hcut
  obtain rfl : c = ':' := of_decide_eq_true hc
  obtain ⟨startText, fileText, countText, rfl, hstart, hfile, hcount⟩ :=
    source?_eq_some_iff.mp hsource
  obtain ⟨generatedText, strideText, rfl, hgenerated, hstride⟩ :=
    numberPair?_eq_some_iff.mp htarget
  dsimp only at h
  split at h
  next => cases h
  next hvalid =>
    obtain rfl := Option.some.inj h
    exact .intro hstart hfile hcount hgenerated hstride (by omega) (by omega)

theorem IsRecord.record?_eq (h : IsRecord line s) : record? line = some s := by
  obtain ⟨hstart, hfile, hcount, hgenerated, hstride, hne, hone⟩ := h
  have hsource := source?_eq_some_iff.mpr ⟨_, _, _, rfl, hstart, hfile, hcount⟩
  have htarget := numberPair?_eq_some_iff.mpr ⟨_, _, rfl, hgenerated, hstride⟩
  have hcolon := colon_notMem_of_source? hsource
  have hcut := Text.cut?_append_cons (p := (· = ':')) (c := ':')
    (fun c hc => decide_eq_false (ne_of_mem_of_not_mem hc hcolon)) (by decide)
  rw [record?, hcut]
  simp only [Option.bind_eq_bind, Option.bind_some, hsource, htarget]
  exact if_neg (by omega)

/-- The reader accepts the lines of the grammar and no others, and gives the segments that they
say. -/
theorem record?_eq_some_iff : record? line = some s ↔ IsRecord line s :=
  ⟨isRecord_of_record?, IsRecord.record?_eq⟩

end Record

end TemplateMap.Stratum
