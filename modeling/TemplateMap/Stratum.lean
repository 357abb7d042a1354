import TemplateMap.Log
import TemplateMap.Stratum.Record
import TemplateMap.Table
import TemplateMap.Template

/-! Stratum text: the line-oriented text in which a compiler records, section by section, which
template lines produced which generated lines, and the table of one template in it.

Reading goes in two passes: the first collects the file entries and the line records as they are
written, the second keeps the records of the files that name the template. -/

namespace TemplateMap.Stratum

/-- The section that a line of the text stands in. -/
inductive Part
  | other
  | files
  | lines
  deriving DecidableEq, Repr

/-- A declared file: the id that records refer to it by, its name, and the path given for it. -/
structure FileEntry where
  id : Text
  name : Text
  path : Option Text
  deriving DecidableEq

namespace FileEntry

/-- How well the entry names the template, by its name or by its path. -/
def matchOf (e : FileEntry) (template : Template) : NameMatch :=
  let byPath := match e.path with
    | some path => template.matchName path
    | none => .none
  (template.matchName e.name).best byPath

/-- The entry that a line of a file section writes: an id and a name with white space between them.
A plus sign in front announces that the path follows on the next line. -/
def ofLine? (line : Text) : Option (FileEntry × Bool) :=
  let (hasPath, rest) := match line with
    | '+' :: rest => (true, Text.trimStart rest)
    | _ => (false, line)
  match rest.cut? isBlank with
  | none => none
  | some (id, name) =>
    if isFileId id && !name.trim.isEmpty then some (⟨id, name.trim, none⟩, hasPath) else none

end FileEntry

/-- Whether a line is the marker of a line section. -/
def isLineMarker (line : Text) : Bool := line = ['*', 'L']

/-- Whether a line is the marker of a file section. -/
def isFileMarker (line : Text) : Bool := line = ['*', 'F']

/-- Whether a line ends the text. -/
def isEndMarker (line : Text) : Bool := ['*', 'E'].isPrefixOf line

/-- Whether a line is a marker of any section. -/
def isMarker (line : Text) : Bool := ['*'].isPrefixOf line

/-- What the first pass knows after some lines; of all that it has found, the last comes first. -/
structure Scan where
  part : Part
  /-- The next line of the file section is the path of the last entry. -/
  awaitingPath : Bool
  /-- The file id that a record without one of its own takes. -/
  scope : Option Text
  files : List FileEntry
  records : List Segment
  log : Log

namespace Scan

/-- The scan before the first line.  Without a line marker anywhere the text is all records. -/
def start (hasLineMarker : Bool) : Scan :=
  { part := if hasLineMarker then .other else .lines
    awaitingPath := false
    scope := none
    files := []
    records := []
    log := [] }

/-- The entries with the path of the one that was found last set. -/
def setLastPath (path : Text) : (files : List FileEntry) → List FileEntry
  | last :: before => { last with path := some path } :: before
  | [] => []

/-- The scan after a line of a file section. -/
def fileLine (s : Scan) (line : Text) : Scan :=
  if s.awaitingPath then { s with awaitingPath := false, files := setLastPath line s.files }
  else
    match FileEntry.ofLine? line with
    | some (entry, hasPath) =>
      { s with
        awaitingPath := hasPath
        files := entry :: s.files
        log := .fileEntry entry.id entry.name :: s.log }
    | none => { s with log := .malformedEntry line :: s.log }

/-- The scan after a line of a line section.  A record that gives its file id sets the scope of
those after it. -/
def recordLine (s : Scan) (line : Text) : Scan :=
  match record? line with
  | some segment =>
    let scope := segment.file.or s.scope
    { s with scope := scope, records := { segment with file := scope } :: s.records }
  | none => { s with log := .malformedRecord line :: s.log }

/-- The scan after one more line, which is trimmed, not empty and does not end the text. -/
def step (s : Scan) (line : Text) : Scan :=
  if isFileMarker line then { s with part := .files, awaitingPath := false }
  else if isLineMarker line then
    { s with part := .lines, scope := s.files.getLast?.map FileEntry.id }
  else if isMarker line then { s with part := .other }
  else
    match s.part with
    | .files => s.fileLine line
    | .lines => s.recordLine line
    | .other => s

/-- What the scan has found, in the order in which it was found. -/
def inOrder (s : Scan) : Scan :=
  { s with files := s.files.reverse, records := s.records.reverse, log := s.log.reverse }

end Scan

/-- The lines of a text that say something: trimmed and not empty. -/
def significantLines (text : Text) : List Text :=
  (text.lines.map Text.trim).filter fun line => !line.isEmpty

/-- What the first pass over a text finds, up to the line that ends it. -/
def scan (text : Text) : Scan :=
  let lines := significantLines text
  let start := Scan.start (lines.any isLineMarker)
  ((lines.takeWhile fun line => !isEndMarker line).foldl Scan.step start).inOrder

/-- The ids of the entries that name the template best, if any names it at all. -/
def retainedIds (files : List FileEntry) (template : Template) : List Text :=
  let idsWith (quality : NameMatch) : List Text :=
    (files.filter fun e => e.matchOf template = quality).map FileEntry.id
  let exact := idsWith .exact
  if exact.isEmpty then idsWith .contains else exact

/-- Whether a record in this scope is kept.  All are when no entry names the template. -/
def keeps (retained : List Text) (scope : Option Text) : Bool :=
  retained.isEmpty ||
    match scope with
    | some id => retained.contains id
    | none => false

/-- The table of a template in a text. -/
def parse (text : Text) (template : Template) : Table :=
  let s := scan text
  let retained := retainedIds s.files template
  s.records.filter fun r => keeps retained r.file

/-- The events of reading the table of a template. -/
def parseLog (text : Text) (template : Template) : Log :=
  let s := scan text
  let unmatched := (retainedIds s.files template).isEmpty && !s.files.isEmpty
  s.log ++ (if unmatched then [.noEntryMatches template.name s.files.length] else []) ++
    [.segmentsRead (parse text template).length template.name]

end TemplateMap.Stratum
