import TemplateMap.Shell.Source
import TemplateMap.System.Task
import TemplateMap.Text.Utf8

/-! The state of a shell, and what shells do: steps that change the state, call the system, and may
leave off before they are done.  All texts are bytes, one character for each. -/

namespace TemplateMap.Shell

open TemplateMap.System (SystemCall Opening Reply Response Task)

/-- A variable. -/
structure Variable where
  /-- None where the variable is only marked and has not been set. -/
  value : Option Text
  isExported : Bool
  isReadOnly : Bool

/-- Processes that were started together, in the order of a pipeline. -/
structure Job where
  /-- The place in the table of jobs, from 0 on. -/
  slot : Nat
  processes : List (Nat × Option Tool.Status)
  /-- The end has been told to the script. -/
  isWaited : Bool
  /-- The end has not been told in a listing. -/
  isChanged : Bool

/-- What a redirection has put aside for a descriptor. -/
inductive Saved
  | copy (descriptor : Nat)
  /-- The descriptor stood for nothing. -/
  | closed

/-- Why steps leave off. -/
inductive Flow
  /-- A number of loops is left, and the last of them may go on. -/
  | leave (loops : Nat) (goesOn : Bool)
  /-- A function or a script is left, with a status that was named or not. -/
  | returned (named : Bool)
  /-- The shell is left on demand. -/
  | exited
  /-- The shell is left at its end. -/
  | ended
  | failed

/-- Where the options of a command are being read. -/
structure OptionCursor where
  /-- The number of the next argument. -/
  index : Nat
  /-- How many letters of the argument before it have been read, if there are more. -/
  offset : Option Nat

/-- The state of a shell. -/
structure Machine where
  /-- The number of the process, which subshells take over. -/
  number : Nat
  name : Text
  arguments : List Text
  cursor : OptionCursor
  bindings : List (Text × Variable)
  functions : List (Text × Function)
  aliases : List (Text × Text)
  /-- The letters of the options that are on. -/
  options : List Char
  /-- The options about which nothing has been said while the shell starts. -/
  undecided : List Char
  /-- The place of the working directory, and how it is shown. -/
  directory : Place
  directoryText : Text
  /-- The status of the last command. -/
  status : Nat
  /-- The status of the last command whose output was taken. -/
  outputStatus : Nat
  /-- The status before a trap, or the one to exit with. -/
  savedStatus : Option Nat
  /-- The line that messages tell. -/
  line : Nat
  /-- The line that has been read up to. -/
  sourceLine : Nat
  /-- The command that messages tell. -/
  label : Option Text
  /-- The loops around the current command. -/
  loops : Nat
  /-- The functions around the current command. -/
  calls : Nat
  /-- The shells around this one. -/
  level : Nat
  traps : List (Nat × Text)
  /-- Signals that have come and have not been answered. -/
  pending : List Nat
  /-- The signals that stay ignored. -/
  ignored : List Nat
  /-- The variables of the functions and commands around, as they were before. -/
  locals : List (List (Text × Option Variable))
  jobs : List Job
  /-- The process that was started last in the background. -/
  latest : Option Nat
  /-- What redirections around the current command have put aside. -/
  frames : List (List (Nat × Saved))
  /-- The next descriptor for what is put aside. -/
  nextSaved : Nat
  /-- The programs that have been found, with the number of the directory in the path. -/
  tracked : List (Text × Nat)
  /-- The programs that were found before the working directory was changed. -/
  stale : List Text
  documents : List (Nat × Word)
  nextDocument : Nat
  /-- What a builtin command has written so far, the last first. -/
  buffer : List Text
  mask : Nat
  /-- The prompt of a trace is being expanded. -/
  isTracing : Bool

/-- Steps of a shell. -/
def Act (α : Type) : Type := Machine → (Except Flow α → Machine → Task) → Task

namespace Machine

/-- Whether the shell asks for commands. -/
def asks (m : Machine) : Bool := m.level = 0 && m.options.contains 'i'

/-- What the shell does about a signal without a command for it: one that asks for commands passes
over those that would end it, and is interrupted by the second one. -/
def response (m : Machine) (signal : Nat) : Response :=
  if !m.asks then .standard
  else if signal = 2 then .noted
  else if signal = 3 || signal = 15 then .ignored
  else .standard

end Machine

namespace Act

instance : Monad Act where
  pure a := fun m k => k (.ok a) m
  bind act next := fun m k => act m fun r m =>
    match r with
    | .ok a => next a m k
    | .error flow => k (.error flow) m

instance : MonadStateOf Machine Act where
  get := fun m k => k (.ok m) m
  set m := fun _ k => k (.ok ()) m
  modifyGet f := fun m k => let (a, m) := f m; k (.ok a) m

instance : MonadExceptOf Flow Act where
  throw flow := fun m k => k (.error flow) m
  tryCatch act handler := fun m k => act m fun r m =>
    match r with
    | .ok a => k (.ok a) m
    | .error flow => handler flow m k

/-- Calls the system. -/
def call (c : SystemCall) : Act Reply := fun m k => .call c fun r => k (.ok r) m

/-- Ends the process. -/
def exit {α : Type} (status : Nat) : Act α := fun _ _ => .exit status

/-- Goes on as another task. -/
def replace {α : Type} (task : Task) : Act α := fun _ _ => task

/-- Does steps and gives how they left off, if they did. -/
def attempt {α : Type} (act : Act α) : Act (Except Flow α) :=
  fun m k => act m fun r m => k (.ok r) m

/-- Leaves off as other steps did. -/
def resume {α : Type} (r : Except Flow α) : Act α := fun m k => k r m

/-- The task that steps are, for a process that ends after them. -/
def toTask (act : Act Unit) (m : Machine) : Task := act m fun _ m => .exit m.status

/-- Starts a process with steps of its own and gives its number. -/
def fork (child : Act Unit) : Act Nat := fun m k =>
  .fork (child.toTask m) fun n => k (.ok n) m

/-- The files. -/
def files : Act FileSystem := do
  match ← call .files with
  | .files fs => return fs
  | _ => return .empty

/-- The failure that a reply tells of. -/
def failure? : Reply → Option IoError
  | .failed e => some e
  | _ => none

/-- Opens a file as a descriptor. -/
def openFile (descriptor : Nat) (path : Text) (how : Opening) : Act (Option IoError) := do
  let m ← get
  return failure? (← call (.openFile descriptor m.directory (Latin1.toText path) how))

/-- Makes a descriptor stand for what another one stands for. -/
def copy (source target : Nat) : Act (Option IoError) := do
  return failure? (← call (.copy source target))

/-- Closes a descriptor. -/
def close (descriptor : Nat) : Act Unit := do
  let _ ← call (.close descriptor)

/-- Writes to a descriptor. -/
def write (descriptor : Nat) (t : Text) : Act (Option IoError) := do
  return failure? (← call (.write descriptor t))

/-- Writes to the descriptor of messages. -/
def complain (t : Text) : Act Unit := do
  let _ ← write 2 t

/-- Writes with what a builtin command writes at its end. -/
def print (t : Text) : Act Unit := modify fun m => { m with buffer := t :: m.buffer }

/-- Writes what has been kept for the end of a builtin command. -/
def flush : Act (Option IoError) := do
  let m ← get
  let t := m.buffer.reverse.flatten
  set { m with buffer := [] }
  if t.isEmpty then return none else write 1 t

/-- Writes a message with the name of the shell, the line and the command in front. -/
def warn (message : Text) : Act Unit := do
  let m ← get
  let label := match m.label with
    | some l => l ++ [':', ' ']
    | none => []
  complain (m.name ++ ": ".toList ++ Text.ofNat m.line ++ ": ".toList ++ label ++ message ++ ['\n'])

/-- Gives up with a message and a status. -/
def failWith {α : Type} (status : Nat) (flow : Flow) (message : Text) : Act α := do
  warn message
  let _ ← flush
  modify fun m => { m with status }
  throw flow

/-- Gives up with a message. -/
def fail {α : Type} (message : Text) : Act α := failWith 2 .failed message

/-- Gives up with a message about something. -/
def failAbout {α : Type} (subject : Text) (message : String) : Act α :=
  fail (subject ++ ": ".toList ++ message.toList)

/-- Does about signals without commands what suits a shell that asks for commands or does not. -/
def settleSignals : Act Unit := do
  let m ← get
  for signal in [2, 3, 15] do
    unless m.ignored.contains signal || (m.traps.lookup signal).isSome do
      let _ ← call (.respond signal (m.response signal))

/-- Whether an option is on. -/
def option (c : Char) : Act Bool := do return (← get).options.contains c

end Act

namespace Machine

/-- The variable with a name. -/
def lookup? (m : Machine) (name : Text) : Option Variable := m.bindings.lookup name

/-- The value of the variable with a name. -/
def value? (m : Machine) (name : Text) : Option Text := (m.lookup? name).bind Variable.value

/-- The machine with a variable in another state, or without it. -/
def setVariable (m : Machine) (name : Text) (v : Option Variable) : Machine :=
  let others := m.bindings.filter fun other => other.1 ≠ name
  { m with bindings := match v with
      | some v => (name, v) :: others
      | none => others }

/-- The characters that separate fields. -/
def separators (m : Machine) : Text := (m.value? "IFS".toList).getD [' ', '\t', '\n']

/-- The directories in which programs are looked for. -/
def searchPath (m : Machine) : Text := (m.value? "PATH".toList).getD []

/-- Whether signals have commands of their own. -/
def hasTraps (m : Machine) : Bool := m.traps.any fun (_, command) => !command.isEmpty

end Machine

end TemplateMap.Shell
