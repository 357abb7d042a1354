import TemplateMap.Blob
import TemplateMap.Proofs.Text.Size
import TemplateMap.Proofs.Word.Basic

/-! The blob in bytes and the section in a dump, cut out at offsets.  An offset into a text counts
bytes, and the text can be cut there only between two characters. -/

namespace TemplateMap

namespace Word

/-- The bytes from the first occurrence of `start` to the end of the first occurrence of `finish`
that begins no earlier. -/
def findBlob (data : Bytes) (start finish : Text) : Checked (Except TierError Bytes) :=
  match firstOccurrence? (Utf8.encode start) data with
  | none => return .error (.noStartToken start)
  | some offset => do
    let tail ← slice data offset data.length
    match firstOccurrence? (Utf8.encode finish) tail with
    | none => return .error (.noEndToken start finish offset)
    | some close =>
      let last ← add Config.maxWord close (Utf8.size finish)
      return .ok (← slice tail 0 last)

theorem findBlob_eq {data : Bytes} (h : data.length ≤ Config.maxWord) (start finish : Text) :
    findBlob data start finish = .ok (TemplateMap.findBlob data start finish) := by
  rw [findBlob, TemplateMap.findBlob]
  cases hstart : firstOccurrence? (Utf8.encode start) data with
  | none => rfl
  | some offset =>
    have hoffset := length_of_firstOccurrence? hstart
    have htail : slice data offset data.length = .ok (data.drop offset) := by
      rw [slice_eq_ok (by omega) (Nat.le_refl _), List.take_length]
    simp only [htail, Loop.ok_bind]
    cases hfinish : firstOccurrence? (Utf8.encode finish) (data.drop offset) with
    | none => rfl
    | some close =>
      have hclose : close + Utf8.size finish ≤ (data.drop offset).length :=
        length_of_firstOccurrence? hfinish
      have hlength : (data.drop offset).length ≤ data.length :=
        List.length_drop ▸ Nat.sub_le ..
      simp only [add_eq_ok (Nat.le_trans hclose (Nat.le_trans hlength h)), Loop.ok_bind,
        slice_eq_ok (Nat.zero_le _) hclose]
      rfl

/-- A text cut in two after so many bytes, unless that is past its end or inside a character. -/
def cutAfter? : Text → Nat → Option (Text × Text)
  | t, 0 => some ([], t)
  | [], _ + 1 => none
  | c :: rest, n + 1 =>
    if (Utf8.encodeChar c).length ≤ n + 1 then
      (cutAfter? rest (n + 1 - (Utf8.encodeChar c).length)).map fun (a, b) => (c :: a, b)
    else none

theorem cutAfter?_append (a b : Text) : cutAfter? (a ++ b) (Utf8.size a) = some (a, b) := by
  induction a with
  | nil => cases b <;> rfl
  | cons c a ih =>
    have hpos := Utf8.one_le_length_encodeChar c
    obtain ⟨n, hn⟩ : ∃ n, Utf8.size (c :: a) = n + 1 :=
      Nat.exists_eq_succ_of_ne_zero (by rw [Utf8.size_cons]; omega)
    have hrest : n + 1 - (Utf8.encodeChar c).length = Utf8.size a := by
      rw [← hn, Utf8.size_cons, Nat.add_sub_cancel_left]
    rw [hn, List.cons_append, cutAfter?, if_pos (by rw [← hn, Utf8.size_cons]; omega), hrest, ih]
    rfl

/-- The part of a text between two offsets. -/
def sliceText (t : Text) (first last : Nat) : Checked Text :=
  match cutAfter? t last with
  | none => .error .outOfBounds
  | some (before, _) =>
    match cutAfter? before first with
    | none => .error .outOfBounds
    | some (_, part) => .ok part

theorem sliceText_append (a part b : Text) :
    sliceText (a ++ part ++ b) (Utf8.size a) (Utf8.size (a ++ part)) = .ok part := by
  simp only [sliceText, cutAfter?_append]

/-- The section of a dump that begins at the offset `start`, or below its header, which the pieces
from the offset on are searched for. -/
def sectionFrom (output header : Text) (offset : Nat) (start : Option Nat) :
    List Text → Checked (Option Text)
  | [] =>
    match start with
    | none => return none
    | some start => return some (← sliceText output start (Utf8.size output))
  | piece :: rest => do
    let next ← add Config.maxWord offset (Utf8.size piece)
    match start with
    | none =>
      sectionFrom output header next (if piece.trim != header then none else some next) rest
    | some start =>
      if Dump.isIndented piece then sectionFrom output header next (some start) rest
      else return some (← sliceText output start offset)

/-- The lines below the first line that is the header, as far as they are indented. -/
def section? (output header : Text) : Checked (Option Text) :=
  sectionFrom output header 0 none output.pieces

variable {output : Text}

/-- Past the header, the offset is behind what the section has so far. -/
theorem sectionFrom_some (h : Utf8.size output ≤ Config.maxWord) (header before part : Text)
    (rest : List Text) (houtput : output = before ++ part ++ rest.flatten) :
    sectionFrom output header (Utf8.size (before ++ part)) (some (Utf8.size before)) rest =
      .ok (some (part ++ (rest.takeWhile Dump.isIndented).flatten)) := by
  induction rest generalizing part with
  | nil =>
    rw [List.flatten_nil, List.append_nil] at houtput
    have hslice := sliceText_append before part []
    rw [List.append_nil] at hslice
    rw [sectionFrom, houtput, hslice, List.takeWhile_nil, List.flatten_nil, List.append_nil]
    rfl
  | cons piece rest ih =>
    have hsize := congrArg Utf8.size houtput
    rw [List.flatten_cons, Utf8.size_append, Utf8.size_append piece] at hsize
    have hnext : Utf8.size (before ++ part) + Utf8.size piece ≤ Config.maxWord := by omega
    rw [sectionFrom, add_eq_ok hnext, Loop.ok_bind]
    simp only
    by_cases hindented : Dump.isIndented piece = true
    · have hlater : output = before ++ (part ++ piece) ++ rest.flatten := by simp [houtput]
      rw [if_pos hindented, ← Utf8.size_append, List.append_assoc, ih _ hlater,
        List.takeWhile_cons_of_pos hindented, List.flatten_cons, List.append_assoc]
    · rw [if_neg hindented, List.takeWhile_cons_of_neg hindented, List.flatten_nil, List.append_nil,
        houtput, sliceText_append]
      rfl

theorem sectionFrom_none (h : Utf8.size output ≤ Config.maxWord) (header before : Text)
    (rest : List Text) (houtput : output = before ++ rest.flatten) :
    sectionFrom output header (Utf8.size before) none rest =
      .ok (match rest.dropWhile fun piece => piece.trim != header with
        | [] => none
        | _ :: below => some (below.takeWhile Dump.isIndented).flatten) := by
  induction rest generalizing before with
  | nil => rfl
  | cons piece rest ih =>
    have hsize := congrArg Utf8.size houtput
    rw [List.flatten_cons, Utf8.size_append, Utf8.size_append piece] at hsize
    have hnext : Utf8.size before + Utf8.size piece ≤ Config.maxWord := by omega
    have hlater : output = before ++ piece ++ rest.flatten := by simp [houtput]
    rw [sectionFrom, add_eq_ok hnext, Loop.ok_bind, ← Utf8.size_append]
    simp only
    cases hheader : piece.trim != header with
    | true =>
      rw [if_pos rfl, ih _ hlater]
      simp [hheader]
    | false =>
      have hbody := sectionFrom_some h header (before ++ piece) [] rest
        (by rw [List.append_nil]; exact hlater)
      rw [List.append_nil] at hbody
      simp [hheader, hbody]

theorem section?_eq (h : Utf8.size output ≤ Config.maxWord) (header : Text) :
    Word.section? output header = .ok (Dump.section? output header) :=
  sectionFrom_none h header [] output.pieces (Text.flatten_pieces output).symm

end Word

end TemplateMap
