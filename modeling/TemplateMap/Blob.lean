import TemplateMap.Failure
import TemplateMap.Text.Utf8

/-! Blobs: the stretch of an artifact's bytes from a start token to the end of an end token; and
dumps, the indented output of a disassembler, in which a blob is in a section: a header line and the
lines below it that are indented. -/

namespace TemplateMap

/-- The bytes from the first occurrence of `start` to the end of the first occurrence of `finish`
that begins no earlier.  The two may share bytes. -/
def findBlob (data : Bytes) (start finish : Text) : Except TierError Bytes :=
  match firstOccurrence? (Utf8.encode start) data with
  | none => .error (.noStartToken start)
  | some offset =>
    let tail := data.drop offset
    match firstOccurrence? (Utf8.encode finish) tail with
    | none => .error (.noEndToken start finish offset)
    | some close => .ok (tail.take (close + (Utf8.encode finish).length))

namespace Dump

/-- Whether a piece of the output belongs to the section above it: it begins with white space, a
line feed included. -/
def isIndented : Text → Bool
  | [] => true
  | c :: _ => isBlank c

/-- The lines below the first line that is the header up to white space at its ends, as far as they
are indented; none if there is no such line. -/
def section? (output header : Text) : Option Text :=
  match output.pieces.dropWhile fun piece => piece.trim != header with
  | [] => none
  | _ :: below => some (below.takeWhile isIndented).flatten

end Dump

end TemplateMap
