import TemplateMap.Text.Quoted

/-! Failures: why a tool gave no output, why a tier gave no table, and why a query has no answer,
each with its message; and the spans of time that messages write. -/

namespace TemplateMap

/-- A span of time in milliseconds. -/
abbrev Milliseconds := Nat

/-- The thousandths of a second after the point, without zeros at the end. -/
def fractionDigits (thousandths : Nat) : Text :=
  let digits := Nat.toDigits 10 thousandths
  let padded := List.replicate (3 - digits.length) '0' ++ digits
  (padded.reverse.dropWhile (· = '0')).reverse

/-- A span in seconds from one second on, below that in milliseconds, and nothing in nanoseconds. -/
def Milliseconds.shown (ms : Milliseconds) : Text :=
  if ms = 0 then ['0', 'n', 's']
  else if ms < 1000 then Text.ofNat ms ++ ['m', 's']
  else
    let fraction := fractionDigits (ms % 1000)
    Text.ofNat (ms / 1000) ++ (if fraction.isEmpty then [] else '.' :: fraction) ++ ['s']

/-- Why a tool gave no output. -/
inductive ToolError
  | noCommand
  | notStarted (program reason : Text)
  | failed (program status : Text)
  | timedOut (program : Text) (limit : Milliseconds)
  | cancelled (program : Text)
  | outputTooLarge (program : Text) (limit : Nat)
  | unreadable (reason : Text)
  deriving DecidableEq

/-- The message of a tool's failure. -/
def ToolError.message : ToolError → Text
  | .noCommand => "no tool command configured".toList
  | .notStarted program reason => "failed to start ".toList ++ program ++ ": ".toList ++ reason
  | .failed program status => program ++ " exited with ".toList ++ status
  | .timedOut program limit => program ++ " timed out after ".toList ++ limit.shown
  | .cancelled program => program ++ " was cancelled".toList
  | .outputTooLarge program limit =>
    program ++ " produced more than ".toList ++ Text.ofNat limit ++ " bytes of output".toList
  | .unreadable reason => reason

/-- Why a tier gave no table. -/
inductive TierError
  | artifactUnreadable
  | sourceUnreadable
  | noStartToken (start : Text)
  | noEndToken (start finish : Text) (offset : Nat)
  | noSection (header : Text)
  | noAnnotations (template : Text)
  | tool (error : ToolError)
  deriving DecidableEq

/-- What kind of failure keeps a tier from a table. -/
inductive FailureKind
  | notFound
  | malformed
  | toolUnavailable
  deriving DecidableEq, Repr

/-- The written name of a kind. -/
def FailureKind.shown : FailureKind → String
  | .notFound => "not found"
  | .malformed => "malformed"
  | .toolUnavailable => "tool unavailable"

namespace TierError

/-- The kind of a tier's failure: a tool that is not configured is only missing data, and a blob
without its end is the one malformed thing. -/
def kind : TierError → FailureKind
  | .tool .noCommand => .notFound
  | .tool _ => .toolUnavailable
  | .noEndToken .. => .malformed
  | _ => .notFound

/-- What is wrong, without the kind. -/
def reason : TierError → Text
  | .artifactUnreadable => "compiled artifact not readable".toList
  | .sourceUnreadable => "generated source not readable".toList
  | .noStartToken start => "no ".toList ++ start.quoted ++ " token".toList
  | .noEndToken start finish offset =>
    start.quoted ++ " at byte ".toList ++ Text.ofNat offset ++ " has no ".toList ++
      finish.quoted ++ " after it".toList
  | .noSection header => "no ".toList ++ header.quoted ++ " section in tool output".toList
  | .noAnnotations template => "no line annotations for ".toList ++ template
  | .tool error => error.message

/-- The message of a tier's failure: the kind in words, and the reason. -/
def message (e : TierError) : Text :=
  let lead := match e.kind with
    | .notFound => "no mapping data: "
    | .malformed => "malformed mapping data: "
    | .toolUnavailable => "external tool unavailable: "
  lead.toList ++ e.reason

end TierError

/-- Why a query has no answer, or an artifact no table. -/
inductive MappingError
  | notFound (artifact : Text)
  | emptyTable
  deriving DecidableEq

/-- The message of a mapping failure. -/
def MappingError.message : MappingError → Text
  | .notFound artifact => "no line mapping available for ".toList ++ artifact
  | .emptyTable => "mapping table is empty".toList

end TemplateMap
