import TemplateMap.Program.Format
import TemplateMap.Shell.Condition
import TemplateMap.Shell.Directory
import TemplateMap.Shell.Field
import TemplateMap.Shell.Glob
import TemplateMap.Shell.Limit
import TemplateMap.Shell.Signal

/-! Builtin commands: those that a shell runs by itself and that do not run other commands. -/

namespace TemplateMap.Shell

namespace Act

/-- Shows the variables of a kind in the order of their names, with a word in front. -/
def showVariables (word : Text) (isShown : Variable → Bool) : Act Unit := do
  let m ← get
  let shown := m.bindings.filter fun (_, v) => isShown v
  let sorted := shown.mergeSort fun a b => Glob.isOrdered a.1 b.1
  for (name, v) in sorted do
    let value := match v.value with
      | some t => '=' :: quotedValue t
      | none => []
    print ((if word.isEmpty then [] else word ++ [' ']) ++ name ++ value ++ ['\n'])

/-- The command that shows marked variables, or marks some. -/
def markCommand (word : Text) (arguments : List Text) : Act Nat := do
  let readOnly := word.head? = some 'r'
  let (options, names) ← letters "p" arguments
  if !options.isEmpty || names.isEmpty then
    showVariables word fun v => if readOnly then v.isReadOnly else v.isExported
  else
    for name in names do
      mark name (!readOnly) readOnly
  return 0

/-- The command that makes variables local. -/
def localCommand (arguments : List Text) : Act Nat := do
  if (← get).locals.isEmpty then fail "not in a function".toList
  for name in arguments do
    makeLocal name false
  return 0

/-- The command that takes variables or functions away. -/
def unsetCommand (arguments : List Text) : Act Nat := do
  let (options, names) ← letters "vf" arguments
  let ofFunctions := (options.getLast?).any fun (c, _) => c = 'f'
  for name in names do
    if ofFunctions then
      modify fun m => { m with functions := m.functions.filter (·.1 ≠ name) }
    else unset name
  return 0

/-- The command that shows variables, or sets options and arguments. -/
def settingsCommand (arguments : List Text) : Act Nat := do
  if arguments.isEmpty then
    showVariables [] fun v => v.value.isSome
    return 0
  else setCommand arguments

/-- A line of the input as spans to be cut into fields, the last first: `run` is what was read since
the last one, the last character first.  Gives whether the line has an end. -/
def readSpans (raw : Bool) : (fuel : Nat) → (afterBackslash : Bool) → (run : List Glyph) →
    (done : List Span) → Act (Bool × List Span)
  | 0, _, run, done => return (false, ⟨.separators, run.reverse⟩ :: done)
  | fuel + 1, afterBackslash, run, done => do
    let finish (isWhole : Bool) : Act (Bool × List Span) :=
      return (isWhole, ⟨.separators, run.reverse⟩ :: done)
    match ← call (.read 0 1) with
    | .text [c] =>
      if c = '\x00' then readSpans raw fuel afterBackslash run done
      else if afterBackslash then
        let done := (⟨.separators, run.reverse⟩ : Span) :: done
        if c = '\n' then readSpans raw fuel false [] done
        else readSpans raw fuel false [] (⟨.nowhere, glyphsOf true [c]⟩ :: done)
      else if c = '\\' && !raw then readSpans raw fuel true run done
      else if c = '\n' then finish true
      else readSpans raw fuel false (.char c false :: run) done
    | _ => finish false

/-- Gives fields to variables; those without a field become empty. -/
def assignFields : List Text → List (List Glyph) → Act Unit
  | [], _ => return
  | name :: names, fields => do
    assign name (glyphText (fields.headD []))
    assignFields names (fields.drop 1)

/-- The command that reads a line into variables. -/
def readCommand (arguments : List Text) : Act Nat := do
  let (options, names) ← letters "p:r" arguments
  if names.isEmpty then fail "arg count".toList
  let (isWhole, spans) ← readSpans (options.any (·.1 = 'r')) maxRounds false [] []
  let fields := fieldsOf (← get).separators (some names.length) spans.reverse
  assignFields names fields
  return if isWhole then 0 else 1

/-- Prints arguments with their backslash forms replaced and blanks between them; a form that ends
the output ends it before what stands after the argument. -/
def printEchoed (lineEnd : Text) : List Text → Act Unit
  | [] => print lineEnd
  | a :: rest => do
    let (t, ending) := Program.Escaped.applied Program.Escaped.inArgument a
    print t
    if ending.isNone then
      if rest.isEmpty then print lineEnd
      else
        print [' ']
        printEchoed lineEnd rest

/-- The command that prints its arguments. -/
def echoCommand (arguments : List Text) : Act Nat := do
  if arguments.head? = some ['-', 'n'] then printEchoed [] (arguments.drop 1)
  else printEchoed ['\n'] arguments
  return 0

/-- Prints what a format gave, piece by piece; messages come before all output. -/
def printPieces (pieces : List Program.Printed) : Act Unit := do
  for piece in pieces do
    match piece with
    | .output t => print t
    | .message t => warn t

/-- The command that formats its arguments. -/
def printfCommand (arguments : List Text) : Act Nat := do
  match ← operands arguments with
  | [] => fail "usage: printf format [arg ...]".toList
  | format :: rest =>
    let p := Program.formatted .script format rest
    printPieces p.pieces
    match p.ending with
    | some (.refused message) => fail message
    | _ => return if p.failed then 1 else 0

/-- The command that shows the time that has been used, which is little. -/
def timesCommand : Act Nat := do
  let line := "0m0.000000s 0m0.000000s\n".toList
  print (line ++ line)
  return 0

/-- The command that leaves the shell. -/
def exitCommand (arguments : List Text) : Act Nat := do
  match arguments with
  | [] => pure ()
  | t :: _ =>
    let n ← natural t
    modify fun m => { m with savedStatus := some n }
  throw .exited

/-- The command that leaves a function or a script. -/
def returnCommand (arguments : List Text) : Act Nat := do
  match arguments with
  | [] => throw (.returned false)
  | t :: _ =>
    let status ← natural t
    modify fun m => { m with status }
    throw (.returned true)

/-- The command that leaves loops, or goes on with the last of them. -/
def leaveCommand (goesOn : Bool) (arguments : List Text) : Act Nat := do
  let count ← match arguments with
    | [] => pure 1
    | t :: _ => do
      let n ← natural t
      if n = 0 then badNumber t else pure n
  let m ← get
  let count := min count m.loops
  if count = 0 then return 0
  else
    set { m with status := 0 }
    throw (.leave count goesOn)

/-- The builtin command with a name, if it is one of those that run no others. -/
def plainCommand? (name : Text) : Option (List Text → Act Nat) :=
  match name.str with
  | ":" | "true" => some fun _ => return 0
  | "false" => some fun _ => return 1
  | "[" | "test" => some (testCommand name)
  | "alias" => some aliasCommand
  | "bg" | "fg" => some groundCommand
  | "break" => some (leaveCommand false)
  | "cd" | "chdir" => some cdCommand
  | "command" => some commandCommand
  | "continue" => some (leaveCommand true)
  | "echo" => some echoCommand
  | "exit" => some exitCommand
  | "export" | "readonly" => some (markCommand name)
  | "getopts" => some getoptsCommand
  | "hash" => some hashCommand
  | "jobs" => some jobsCommand
  | "kill" => some killCommand
  | "local" => some localCommand
  | "printf" => some printfCommand
  | "pwd" => some pwdCommand
  | "read" => some readCommand
  | "return" => some returnCommand
  | "set" => some settingsCommand
  | "shift" => some shiftCommand
  | "times" => some fun _ => timesCommand
  | "trap" => some trapCommand
  | "type" => some typeCommand
  | "ulimit" => some ulimitCommand
  | "umask" => some umaskCommand
  | "unalias" => some unaliasCommand
  | "unset" => some unsetCommand
  | "wait" => some waitCommand
  | _ => none

end Act

end TemplateMap.Shell
