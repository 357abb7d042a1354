import TemplateMap.Shell.Expand
import TemplateMap.Shell.Job

/-! Redirections: their words are expanded first, and then one after the other puts something in the
place of a descriptor, which can be put back. -/

namespace TemplateMap.Shell

open TemplateMap.System (Opening)

/-- What a redirection puts in the place of a descriptor, its word being expanded. -/
inductive Destination
  | file (mode : FileMode) (path : Text)
  | copy (descriptor : Nat)
  | closed
  | document (number : Nat)

/-- A redirection whose word is expanded. -/
structure Change where
  descriptor : Nat
  destination : Destination

/-- Why a file cannot be opened, in words; a missing place for a new file is told as one. -/
def openFailure (creates : Bool) (e : IoError) : String :=
  match e with
  | .notFound | .notADirectory => if creates then "Directory nonexistent" else "No such file"
  | e => e.reason

namespace Act

/-- Gives up because a file cannot be opened. -/
def failOpening {α : Type} (creates : Bool) (path : Text) (e : IoError) : Act α :=
  let verb := if creates then "cannot create " else "cannot open "
  fail (verb.toList ++ path ++ ": ".toList ++ (openFailure creates e).toList)

/-- Gives up because of a fault in the script. -/
def failSyntax {α : Type} (message : String) (line : Nat) : Act α := do
  modify fun m => { m with line }
  fail ("Syntax error: " ++ message).toList

/-- A redirection with its word expanded. -/
def change (take : OutputTaker) : Redirection → Act Change
  | .of descriptor target => do
    match target with
    | .file mode path => return ⟨descriptor, .file mode (← textOf take .text true path)⟩
    | .copy source => return ⟨descriptor, .copy source⟩
    | .closed => return ⟨descriptor, .closed⟩
    | .named source =>
      match ← textOf take .text true source with
      | ['-'] => return ⟨descriptor, .closed⟩
      | [d] =>
        if d.isDigit then return ⟨descriptor, .copy (d.toNat - '0'.toNat)⟩
        else failSyntax "Bad fd number" (← get).sourceLine
      | _ => failSyntax "Bad fd number" (← get).sourceLine
    | .document number => return ⟨descriptor, .document number⟩

/-- How a file is opened in a mode. -/
def openingOf (path : Text) : FileMode → Act Opening
  | .input => return .input
  | .both => return .both
  | .extension => return .extension
  | .forced => return .output
  | .output => do
    if ← option 'C' then
      let m ← get
      match (← files).lookFrom? m.directory (Latin1.toText path) with
      | some (.file _) => return { Opening.output with empties := false, fresh := true }
      | some _ => return { Opening.output with creates := false, empties := false }
      | none => return { Opening.output with empties := false, fresh := true }
    else return .output

/-- How many bytes a pipe takes at once. -/
def pipeSize : Nat := 4096

/-- Opens a document as a descriptor: a pipe that holds it, or that a process of its own fills. -/
def openDocument (take : OutputTaker) (number descriptor : Nat) :
    Act Unit := do
  let m ← get
  let t ← textOf take .document false ((m.documents.lookup number).getD [])
  let writer ← freshDescriptor
  let _ ← call (.makePipe descriptor writer)
  if t.length ≤ pipeSize then
    let _ ← write writer t
  else
    let _ ← flush
    let _ ← fork (do
      close descriptor
      let _ ← write writer t
      exit 0)
  close writer

/-- Opens what a redirection puts in the place of a descriptor and gives the descriptor that stands
for it, if there is one. -/
def openDestination (take : OutputTaker) :
    Destination → Act (Option Nat)
  | .file mode path => do
    let how ← openingOf path mode
    let fresh ← freshDescriptor
    match ← openFile fresh path how with
    | some e => failOpening (how.creates) path e
    | none => return some fresh
  | .copy source => return some source
  | .closed => return none
  | .document number => do
    let fresh ← freshDescriptor
    openDocument take number fresh
    return some fresh

/-- Puts a descriptor aside in the first frame, unless that has been done. -/
def putAside (descriptor : Nat) : Act Unit := do
  let m ← get
  match m.frames with
  | [] => return
  | frame :: rest =>
    unless frame.any fun (d, _) => d = descriptor do
      let fresh ← freshDescriptor
      let saved ← match ← copy descriptor fresh with
        | none => do
          close descriptor
          pure (Saved.copy fresh)
        | some _ => pure Saved.closed
      modify fun m => { m with frames := (frame ++ [(descriptor, saved)]) :: rest }

/-- Makes one change of a descriptor. -/
def makeChange (take : OutputTaker) (saves : Bool) (c : Change) :
    Act Unit := do
  let isCopy := match c.destination with
    | .copy _ => true
    | _ => false
  match ← openDestination take c.destination with
  | none =>
    if saves then putAside c.descriptor
    close c.descriptor
  | some source =>
    unless source = c.descriptor do
      if saves then putAside c.descriptor
      match ← copy source c.descriptor with
      | some e => fail (Text.ofNat source ++ ": ".toList ++ e.reason.toList)
      | none => unless isCopy do close source

/-- Makes changes of descriptors, one after the other. -/
def makeChanges (take : OutputTaker) (saves : Bool) : List Change → Act Unit
  | [] => return
  | c :: rest => do
    makeChange take saves c
    makeChanges take saves rest

/-- Makes changes of descriptors in a new frame, if there are some; gives whether all went well. -/
def enterChanges (take : OutputTaker) (changes : List Change) :
    Act Bool := do
  unless changes.isEmpty do modify fun m => { m with frames := [] :: m.frames }
  match ← attempt (makeChanges take true changes) with
  | .ok () => return true
  | .error .failed => return false
  | .error flow => throw flow

/-- The descriptor that messages went to before the changes of the first frame. -/
def earlierMessages : Act Nat := do
  match (← get).frames with
  | frame :: _ =>
    match frame.lookup 2 with
    | some (.copy n) => return n
    | _ => return 2
  | [] => return 2

end Act

end TemplateMap.Shell
