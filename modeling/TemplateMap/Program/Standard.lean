import TemplateMap.Program.Format
import TemplateMap.Program.Listing
import TemplateMap.Program.Options
import TemplateMap.Program.Usage
import TemplateMap.System.Task

/-! The programs that every system has, the shell apart.  Each is a task that what it starts with
gives; all texts are bytes, one character for each. -/

namespace TemplateMap.Program

open TemplateMap.System (SystemCall Opening Reply Start Steps Stream Task)

/-- A program: what it does after a start. -/
abbrev Behaviour := Start → Task

/-- The locale of a program. -/
def localeOf (start : Start) : Locale := .ofEnvironment start.environment

/-- Whether a program keeps to the letter of what is written about it. -/
def isStrict (start : Start) : Bool :=
  (start.environment.lookup "POSIXLY_CORRECT".toList).isSome

/-- Writes a message with the name of the program in front. -/
def complain (name message : Text) : Steps Unit := do
  let _ ← Steps.write 2 (name ++ ": ".toList ++ message ++ ['\n'])

/-- Ends with a message. -/
def refuse {α : Type} (name message : Text) : Steps α := do
  complain name message
  Steps.exit 1

/-- Ends with a hint about how the program is used. -/
def hint {α : Type} (name : Text) : Steps α := do
  let _ ← Steps.write 2 ("Try '".toList ++ name ++ " --help' for more information.\n".toList)
  Steps.exit 1

/-- Writes to the output; the program ends where that fails. -/
def emit (name t : Text) : Steps Unit := do
  unless t.isEmpty do
    match ← Steps.write 1 t with
    | none => return
    | some e => refuse name ("write error: ".toList ++ e.reason.toList)

/-- What a program tells about itself: how it is used, after its name, and its version. -/
structure About where
  usage : Text → Text
  version : Text

/-- Tells about a program, if one of its options is a letter that asks for that. -/
def tell (name : Text) (about : About) (options : Text) : Steps Unit := do
  match options.find? OptionSet.tellers.contains with
  | some 'H' => emit name (about.usage name)
  | some _ => emit name about.version
  | none => return
  Steps.exit 0

/-- The letter of an option that tells about the program, if that is its only argument. -/
def onlyTeller (arguments : List Text) : Text :=
  match arguments with
  | [a] => if a = "--help".toList then ['H'] else if a = "--version".toList then ['V'] else []
  | _ => []

/-- The options and the other arguments, if the program knows all options. -/
def readOptions (start : Start) (about : About) (o : OptionSet) : Steps OptionReading := do
  match o.read (isStrict start) start.arguments with
  | .error message =>
    complain start.name message
    hint start.name
  | .ok found =>
    tell start.name about found.options
    return found

/-- The program that only ends with a status. -/
def ending (program outcome : String) (status : Nat) : Behaviour := fun start => Steps.toTask do
  match onlyTeller start.arguments with
  | ['H'] => emit start.name (Usage.ending outcome start.name)
  | ['V'] => emit start.name (Usage.version program)
  | _ => pure ()
  return status

/-- The options of the program that echoes: whether a line feed ends the output and whether
backslash forms are replaced; with the other arguments. -/
def echoOptions (newline escapes : Bool) : List Text → Bool × Bool × List Text
  | [] => (newline, escapes, [])
  | a :: rest =>
    match a with
    | '-' :: letters =>
      if !letters.isEmpty && letters.all fun c => c = 'n' || c = 'e' || c = 'E' then
        let last := (letters.filter (· ≠ 'n')).getLast?
        echoOptions (newline && !letters.contains 'n') (last.elim escapes (· = 'e')) rest
      else (newline, escapes, a :: rest)
    | _ => (newline, escapes, a :: rest)

/-- The program that echoes its arguments; a strict one knows its options only where the first
argument is the one that leaves the line feed out. -/
def echo : Behaviour := fun start => Steps.toTask do
  let name := start.name
  let arguments := start.arguments
  let knowsOptions := !isStrict start || arguments.head? = some ['-', 'n']
  if knowsOptions then tell name ⟨Usage.echo, Usage.version "echo"⟩ (onlyTeller arguments)
  let (newline, escapes, arguments) :=
    if knowsOptions then echoOptions true false arguments else (true, false, arguments)
  let line := Text.joined [' '] arguments
  let (t, ending) :=
    if escapes || isStrict start then Escaped.applied Escaped.echoed line else (line, none)
  emit name (if newline && ending.isNone then t ++ ['\n'] else t)
  return 0

/-- Prints what a format gave, piece by piece. -/
def printPieces (name : Text) : List Printed → Steps Unit
  | [] => return
  | .output t :: rest => do
    emit name t
    printPieces name rest
  | .message t :: rest => do
    complain name t
    printPieces name rest

/-- The program that formats its arguments. -/
def printf : Behaviour := fun start => Steps.toTask do
  let name := start.name
  let locale := localeOf start
  tell name ⟨Usage.printf, Usage.version "printf"⟩ (onlyTeller start.arguments)
  let arguments :=
    if start.arguments.head? = some ['-', '-'] then start.arguments.drop 1 else start.arguments
  match arguments with
  | [] =>
    complain name "missing operand".toList
    hint name
  | format :: rest =>
    let p := formatted (.program locale (isStrict start)) format rest
    printPieces name p.pieces
    let status ← match p.ending with
      | some .stopped => pure 0
      | some (.refused message) => do
        complain name message
        pure 1
      | none => do
        match p.arguments with
        | [] => pure ()
        | a :: _ =>
          complain name ("warning: ignoring excess arguments, starting with ".toList ++
            Quote.inMessage locale a)
        pure (if p.failed then 1 else 0)
    if p.lacksOutput then refuse name "write error".toList
    return status

/-- The seconds in the units of a span of time. -/
def unit? : Text → Option Nat
  | [] => some 1
  | ['s'] => some 1
  | ['m'] => some 60
  | ['h'] => some 3600
  | ['d'] => some 86400
  | _ => none

/-- The span that a text names, in seconds; none inside where it is endless. -/
def span? (t : Text) : Option (Option Rat) := do
  let p ← FloatingFormat.double.prefix? t
  let unit ← unit? p.rest
  match p.value with
  | .finite negative size => if negative && size ≠ 0 then none else some (some (size * unit))
  | .infinite false => some none
  | _ => none

/-- The program that waits for the sum of the spans that it is given. -/
def sleep : Behaviour := fun start => Steps.toTask do
  let name := start.name
  let found ← readOptions start ⟨Usage.sleep, Usage.version "sleep"⟩ .common
  if found.operands.isEmpty then
    complain name "missing operand".toList
    hint name
  let bad := found.operands.filter fun t => (span? t).isNone
  for t in bad do
    complain name ("invalid time interval ".toList ++ Quote.inMessage (localeOf start) t)
  unless bad.isEmpty do hint name
  let spans := found.operands.filterMap span?
  let total := spans.foldl (fun sum s => sum.bind fun sum => s.map (sum + ·)) (some (0 : Rat))
  let _ ← Steps.call (.sleep (total.map fun seconds => (seconds * 1000000000).ceil.toNat))
  return 0

/-- The options of the program that lists files. -/
def listingOptions : OptionSet where
  letters := "benstuvAET".toList
  words :=
    [("number-nonblank", 'b'), ("number", 'n'), ("squeeze-blank", 's'), ("show-nonprinting", 'v'),
      ("show-ends", 'E'), ("show-tabs", 'T'), ("show-all", 'A'), ("help", 'H'), ("version", 'V')]

/-- How many times a loop of calls may go round. -/
def maxRounds : Nat := 1000000000000

/-- How many bytes are read at once. -/
def pieceSize : Nat := 131072

/-- What the listing of files is done with. -/
structure Lister where
  start : Start
  listing : Listing
  /-- What the output stands for. -/
  sink : Stream

namespace Lister

/-- Tells what is wrong with a file. -/
def fault (x : Lister) (file : Text) (reason : String) : Steps Unit :=
  complain x.start.name
    (Quote.forShell (localeOf x.start) true file ++ ": ".toList ++ reason.toList)

/-- Lists what is read from a descriptor, and gives the state after it and whether all went well. -/
def list (x : Lister) (file : Text) (descriptor : Nat) :
    (fuel : Nat) → ListingState → Steps (ListingState × Bool)
  | 0, s => return (s, true)
  | fuel + 1, s => do
    match ← Steps.call (.read descriptor pieceSize) with
    | .text [] => return (s, true)
    | .text t =>
      let (shown, s) := x.listing.shown s t
      emit x.start.name shown
      list x file descriptor fuel s
    | .failed e =>
      x.fault file e.reason
      return (s, false)
    | _ => list x file descriptor fuel s

/-- Whether reading a stream would only read what is written to another one. -/
def feedsItself (files : FileSystem) (input sink : Stream) : Bool :=
  match input, sink with
  | .file place position _, .file place' position' how =>
    let size := match files.node? place with
      | some (.file content) => content.size
      | _ => 0
    place = place' && position < if how.appends then size else position'
  | _, _ => false

/-- The descriptor through which files are read. -/
def fileDescriptor : Nat := 100

/-- Lists one file, and gives the state after it and whether all went well. -/
def listFile (x : Lister) (file : Text) (s : ListingState) : Steps (ListingState × Bool) := do
  let isInput := file = ['-']
  let descriptor := if isInput then 0 else fileDescriptor
  let opened ←
    if isInput then pure Reply.done
    else
      Steps.call (.openFile descriptor x.start.directory (Latin1.toText file) .input)
  match opened with
  | .failed e =>
    x.fault file e.reason
    return (s, false)
  | _ =>
    let listed ← match ← Steps.call (.stream descriptor), ← Steps.call .files with
      | .failed e, _ => do
        x.fault file e.reason
        pure (s, false)
      | .stream input, .files files =>
        if feedsItself files input x.sink then do
          x.fault file "input file is output file"
          pure (s, false)
        else x.list file descriptor maxRounds s
      | _, _ => pure (s, true)
    unless isInput do
      let _ ← Steps.call (.close descriptor)
    return listed

/-- Lists files one after the other, and gives the state after them and whether all went well. -/
def listFiles (x : Lister) :
    (files : List Text) → (s : ListingState) → (allWell : Bool) → Steps (ListingState × Bool)
  | [], s, allWell => return (s, allWell)
  | file :: rest, s, allWell => do
    let (s, isWell) ← x.listFile file s
    listFiles x rest s (allWell && isWell)

end Lister

/-- The program that lists files. -/
def cat : Behaviour := fun start => Steps.toTask do
  let name := start.name
  let found ← readOptions start ⟨Usage.cat, Usage.version "cat"⟩ listingOptions
  let l := found.options.foldl Listing.withLetter .plain
  let files := if found.operands.isEmpty then [['-']] else found.operands
  match ← Steps.call (.stream 1) with
  | .stream sink =>
    let x : Lister := ⟨start, l, sink⟩
    let (s, allWell) ← x.listFiles files .start true
    if s.pendingReturn then emit name ['\r']
    if files.contains ['-'] then
      match ← Steps.call (.stream 0) with
      | .failed e => refuse name ("closing standard input: ".toList ++ e.reason.toList)
      | _ => pure ()
    return if allWell then 0 else 1
  | .failed e => refuse name ("standard output: ".toList ++ e.reason.toList)
  | _ => return 1

/-- The programs with their names. -/
def all : List (String × Behaviour) :=
  [("cat", cat), ("echo", echo), ("printf", printf), ("sleep", sleep),
    ("true", ending "true" "success" 0), ("false", ending "false" "failure" 1)]

/-- The program with a name, if there is one. -/
def named? (name : Text) : Option Behaviour := all.lookup name.str

end TemplateMap.Program
