import TemplateMap.Text.Quoted
import TemplateMap.Tier

/-! Log: the events that are worth telling about, each with a level and a text. -/

namespace TemplateMap

/-- How much an event matters. -/
inductive Level
  | debug
  | info
  | warn
  deriving DecidableEq, Repr

/-- The written name of a level. -/
def Level.shown : Level → String
  | .debug => "DEBUG"
  | .info => "INFO"
  | .warn => "WARN"

/-- Something that happened on the way to a table. -/
inductive Event
  | fileEntry (id name : Text)
  | malformedEntry (line : Text)
  | malformedRecord (line : Text)
  | noEntryMatches (template : Text) (files : Nat)
  | segmentsRead (count : Nat) (template : Text)
  | densified (annotations lines maxGap : Nat)
  | methodFound (anchor : Text) (first last : Nat)
  | methodMissing (anchor : Text)
  | tierEmpty (tier : Tier) (template : Text)
  | tierChosen (tier : Tier) (count : Nat) (template artifact : Text)
  | estimated (template : Text)
  | tierUnavailable (tier : Tier) (reason : Text)
  | tierSkipped (tier : Tier) (kind : String) (message : Text)
  | toolStarted (program : Text) (arguments : List Text) (artifact : Text)
  | cacheHit (artifact template : Text)
  | artifactChanged (artifact : Text)
  | unreadable (path : Text) (reason : String)
  deriving DecidableEq

namespace Event

/-- How much the event matters. -/
def level : Event → Level
  | .tierChosen .. | .cacheHit .. | .artifactChanged .. => .info
  | .methodMissing .. | .estimated .. | .tierUnavailable .. => .warn
  | _ => .debug

/-- The text of the event. -/
def text : Event → String
  | .fileEntry id name => "File entry " ++ id.str ++ " -> " ++ name.str
  | .malformedEntry line => "Skipping malformed file entry: " ++ line.quoted.str
  | .malformedRecord line => "Skipping malformed line record: " ++ line.quoted.str
  | .noEntryMatches template files =>
    "No file entry matches " ++ template.str ++ " among " ++ toString files ++
      " declared files, accepting all line records"
  | .segmentsRead count template =>
    "Parsed " ++ toString count ++ " mapping segments for " ++ template.str
  | .densified annotations lines maxGap =>
    toString annotations ++ " annotations, " ++ toString lines ++ " after densifying gaps up to " ++
      toString maxGap
  | .methodFound anchor first last =>
    anchor.str ++ " spans generated lines " ++ toString first ++ " to " ++ toString last
  | .methodMissing anchor =>
    "No " ++ anchor.str ++ " method in generated source, assuming boilerplate"
  | .tierEmpty tier template => tier.shown ++ ": produced no segments for " ++ template.str
  | .tierChosen tier count template artifact =>
    tier.shown ++ ": " ++ toString count ++ " segments for " ++ template.str ++ " from " ++
      artifact.str
  | .estimated template => "Using estimated line positions for " ++ template.str
  | .tierUnavailable tier reason => tier.shown ++ ": " ++ reason.str
  | .tierSkipped tier kind message => tier.shown ++ " skipped (" ++ kind ++ "): " ++ message.str
  | .toolStarted program arguments artifact =>
    "Running " ++ program.str ++ " " ++ (Text.joined [' '] arguments).str ++ " " ++ artifact.str
  | .cacheHit artifact template => "Cache hit for " ++ artifact.str ++ " (" ++ template.str ++ ")"
  | .artifactChanged artifact => artifact.str ++ " changed on disk, rebuilding its mapping table"
  | .unreadable path reason => "Cannot read " ++ path.str ++ ": " ++ reason

/-- The event as one line: its level and its text. -/
def shown (e : Event) : String := e.level.shown ++ " " ++ e.text

end Event

/-- The events of a computation, in order. -/
abbrev Log := List Event

end TemplateMap
