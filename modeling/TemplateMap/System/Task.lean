import TemplateMap.System.Resource
import TemplateMap.Tool.Status

/-! Tasks: what a process does, as a tree of calls to the system in which each reply leads on to the
rest of the task.  All texts that tasks read and write are bytes, one character for each. -/

namespace TemplateMap.System

/-- What happens to a process when a signal comes. -/
inductive Response
  | standard
  | ignored
  /-- The signal is kept for the process to ask for. -/
  | noted
  deriving DecidableEq

/-- How a file is opened. -/
structure Opening where
  reads : Bool
  writes : Bool
  /-- A file that is missing is made. -/
  creates : Bool
  /-- The file is made empty. -/
  empties : Bool
  /-- All that is written goes to the end. -/
  appends : Bool
  /-- A file that is there is not opened. -/
  fresh : Bool
  deriving DecidableEq

namespace Opening

/-- For reading. -/
def input : Opening := ⟨true, false, false, false, false, false⟩

/-- For writing from the start, the file being empty. -/
def output : Opening := ⟨false, true, true, true, false, false⟩

/-- For writing at the end. -/
def extension : Opening := ⟨false, true, true, false, true, false⟩

/-- For reading and writing. -/
def both : Opening := ⟨true, true, true, false, false, false⟩

end Opening

/-- What a descriptor stands for. -/
inductive Stream
  /-- The output of the run. -/
  | output
  | reader (pipe : Nat)
  | writer (pipe : Nat)
  | device (kind : Device)
  | directory (place : Place)
  | file (place : Place) (position : Nat) (how : Opening)

/-- What a process asks of the system. -/
inductive SystemCall
  /-- Lets a moment pass and asks for the signals that have been noted. -/
  | step
  | files
  | openFile (descriptor : Nat) (directory : Place) (path : Path) (how : Opening)
  | makePipe (reader writer : Nat)
  | copy (source target : Nat)
  | close (descriptor : Nat)
  | stream (descriptor : Nat)
  | read (descriptor count : Nat)
  | write (descriptor : Nat) (text : Text)
  /-- Sleeps for nanoseconds, or for ever. -/
  | sleep (span : Option Nat)
  /-- Waits for the end of some child, or only asks whether one has ended; a signal that is noted
  can interrupt the waiting. -/
  | wait (blocking interruptible : Bool)
  | send (process signal : Nat)
  | respond (signal : Nat) (response : Response)
  /-- Asks for the signals that are ignored. -/
  | ignored
  | self
  | parent
  | bounds (resource : Resource)
  | setBounds (resource : Resource) (bounds : Bounds)
  /-- The process becomes another program: it keeps the descriptors below ten and the signals that
  it ignores. -/
  | become

/-- What the system replies. -/
inductive Reply
  | done
  | number (value : Nat)
  | text (value : Text)
  | files (value : FileSystem)
  | stream (value : Stream)
  | signals (numbers : List Nat)
  | bounds (value : Bounds)
  | ended (process : Nat) (status : Tool.Status)
  | interrupted
  | failed (error : IoError)

/-- What a process does from here on. -/
inductive Task
  | exit (status : Nat)
  | call (c : SystemCall) (next : Reply → Task)
  /-- Starts a child with the same descriptors and goes on with its number. -/
  | fork (child : Task) (next : Nat → Task)

/-- What a program starts with: its name and arguments, the variables that it is given, and its
working directory. -/
structure Start where
  name : Text
  arguments : List Text
  environment : List (Text × Text)
  directory : Place

namespace Start

/-- How many bytes one text that a program is given may have, with the mark at its end. -/
def maxText : Nat := 131072

/-- How many bytes a program may be given in all, at least and at most. -/
def minRoom : Nat := 131072

/-- How many bytes a program may be given in all, however large its stack is. -/
def maxRoom : Nat := 6291456

/-- Whether all that a program is given has room; a fourth of the stack is there for it. -/
def fits (s : Start) (path : Text) (stack : Option Nat) : Bool :=
  let sizes := s.arguments.map (fun t => t.length + 1) ++
    s.environment.map fun (name, value) => name.length + value.length + 2
  let room := max minRoom (match stack with
    | some size => min maxRoom (size / 4)
    | none => maxRoom)
  sizes.all (· ≤ maxText) &&
    sizes.foldl (· + ·) 0 + 8 * (sizes.length + 1) + s.name.length + 1 + path.length + 1 ≤ room

end Start

/-- Steps of a process that give something and then go on. -/
def Steps (α : Type) : Type := (α → Task) → Task

namespace Steps

instance : Monad Steps where
  pure a := fun k => k a
  bind steps next := fun k => steps fun a => next a k

/-- Calls the system. -/
def call (c : SystemCall) : Steps Reply := fun k => .call c k

/-- Ends the process. -/
def exit {α : Type} (status : Nat) : Steps α := fun _ => .exit status

/-- The task of steps that end the process with a status. -/
def toTask (steps : Steps Nat) : Task := steps .exit

/-- Writes to a descriptor. -/
def write (descriptor : Nat) (t : Text) : Steps (Option IoError) := do
  match ← call (.write descriptor t) with
  | .failed e => return some e
  | _ => return none

end Steps

end TemplateMap.System
