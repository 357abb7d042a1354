import TemplateMap.Text.Basic

/-! Listings: a text with its lines numbered, its repeated empty lines left out, and the characters
made visible that do not show, each as far as it is asked for.  A listing is made piece by piece. -/

namespace TemplateMap.Program

/-- What a listing does to a text. -/
structure Listing where
  numbered : Bool
  /-- Empty lines have no number. -/
  fullOnly : Bool
  /-- Of empty lines that follow one another only the first is kept. -/
  squeezed : Bool
  /-- A dollar sign marks the end of a line. -/
  ends : Bool
  /-- Tabs show. -/
  tabs : Bool
  /-- Control characters and those past the ASCII ones show. -/
  controls : Bool
  deriving DecidableEq

/-- Where a listing is in a text. -/
structure ListingState where
  /-- The number of the next line. -/
  number : Nat
  /-- How many lines ended just now, one being the last full line; none in the middle of a line. -/
  lineEnds : Option Nat
  /-- A carriage return has not been shown yet. -/
  pendingReturn : Bool

namespace ListingState

/-- The state before all text. -/
def start : ListingState := ⟨1, some 0, false⟩

end ListingState

namespace Listing

/-- The listing that is the text itself. -/
def plain : Listing := ⟨false, false, false, false, false, false⟩

/-- The listing with what one letter asks for. -/
def withLetter (l : Listing) : Char → Listing
  | 'n' => { l with numbered := true }
  | 'b' => { l with numbered := true, fullOnly := true }
  | 's' => { l with squeezed := true }
  | 'E' => { l with ends := true }
  | 'T' => { l with tabs := true }
  | 'v' => { l with controls := true }
  | 'e' => { l with controls := true, ends := true }
  | 't' => { l with controls := true, tabs := true }
  | 'A' => { l with controls := true, ends := true, tabs := true }
  | _ => l

/-- How a byte below 128 shows that stands for a control character or for itself. -/
def shownLow (n : Nat) : Text :=
  if n < 32 then ['^', Char.ofNat (n + 64)]
  else if n = 127 then ['^', '?']
  else [Char.ofNat n]

/-- How one byte shows in a line. -/
def shownByte (l : Listing) (c : Char) : Text :=
  let n := c.toNat
  if c = '\t' then if l.tabs then ['^', 'I'] else [c]
  else if !l.controls then [c]
  else if n < 128 then shownLow n
  else ['M', '-'] ++ shownLow (n - 128)

/-- The number of a line and what stands around it. -/
def numberText (n : Nat) : Text :=
  let digits := Text.ofNat n
  List.replicate (6 - digits.length) ' ' ++ digits ++ ['\t']

/-- How the end of a line shows, and the state after it. -/
def lineEnd (l : Listing) (s : ListingState) : Text × ListingState :=
  let ends := match s.lineEnds with
    | none => 0
    | some n => min 2 (n + 1)
  if ends = 2 && l.squeezed then ([], { s with lineEnds := some 2 })
  else
    let hasNumber := 0 < ends && l.numbered && !l.fullOnly
    let mark := (if s.pendingReturn then ['^', 'M'] else []) ++ (if l.ends then ['$'] else [])
    ((if hasNumber then numberText s.number else []) ++ mark ++ ['\n'],
      ⟨if hasNumber then s.number + 1 else s.number, some ends, false⟩)

/-- How one byte shows that is no end of a line, and the state after it. -/
def inLine (l : Listing) (s : ListingState) (c : Char) : Text × ListingState :=
  let hasNumber := s.lineEnds.isSome && l.numbered
  let waits := c = '\r' && l.ends && !l.controls
  ((if s.pendingReturn then ['\r'] else []) ++
      (if hasNumber then numberText s.number else []) ++ (if waits then [] else l.shownByte c),
    ⟨if hasNumber then s.number + 1 else s.number, none, waits⟩)

/-- What a piece of text shows as, after what was shown before, the last character first. -/
def shownFrom (l : Listing) (shown : Text) (s : ListingState) : Text → Text × ListingState
  | [] => (shown.reverse, s)
  | c :: rest =>
    let (t, s) := if c = '\n' then l.lineEnd s else l.inLine s c
    shownFrom l (t.reverse ++ shown) s rest

/-- What a piece of text shows as, and the state after it. -/
def shown (l : Listing) (s : ListingState) (t : Text) : Text × ListingState :=
  if l = plain then (t, s) else l.shownFrom [] s t

end Listing

end TemplateMap.Program
