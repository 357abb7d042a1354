import TemplateMap.Shell.Engine

/-! The shell as a program: how it starts, where its script comes from, and the engine that runs its
commands. -/

namespace TemplateMap.Shell

open TemplateMap.System (Start Task)

namespace Machine

/-- The variables that every shell has. -/
def firstVariables (parent : Nat) : List (Text × Text) :=
  [("IFS".toList, [' ', '\t', '\n']), ("OPTIND".toList, ['1']),
    ("PPID".toList, Text.ofNat parent), ("PS1".toList, ['#', ' ']), ("PS2".toList, ['>', ' ']),
    ("PS4".toList, ['+', ' '])]

/-- The variables of a shell that is given some. -/
def variablesFrom (parent : Nat) (environment : List (Text × Text)) : List (Text × Variable) :=
  let given := environment.filter fun (name, _) => isName name
  let isGiven (name : Text) : Bool := given.any fun (n, _) => n = name
  let own := firstVariables parent
  let isFixed (name : Text) : Bool := ["IFS", "OPTIND", "PPID"].contains name.str
  let first := own.filterMap fun (name, value) =>
    if isGiven name && !isFixed name then none
    else some (name, (⟨some value, isGiven name, false⟩ : Variable))
  let others := given.filterMap fun (name, value) =>
    if isFixed name then none else some (name, (⟨some value, true, false⟩ : Variable))
  let path : List (Text × Variable) :=
    if isGiven "PATH".toList then []
    else [("PATH".toList, ⟨some standardPath, false, false⟩)]
  first ++ others ++ path

/-- A shell before its options. -/
def fresh (start : Start) (number parent : Nat) (ignored : List Nat) : Machine :=
  { number, ignored
    name := start.name, arguments := [], cursor := ⟨1, none⟩
    bindings := variablesFrom parent start.environment
    functions := [], aliases := [], options := [], undecided := allOptions
    directory := start.directory, directoryText := absoluteText start.directory
    status := 0, outputStatus := 0, savedStatus := none, line := 0, sourceLine := 1, label := none
    loops := 0, calls := 0, level := 0, traps := [], pending := [], locals := [], jobs := []
    latest := none, frames := [], nextSaved := 10, tracked := [], stale := [], documents := []
    nextDocument := 1, buffer := [], mask := 18, isTracing := false }

end Machine

namespace Engine

open Act

/-- How many bytes of a script are read at once. -/
def blockSize : Nat := 8192

/-- How many times in a row a shell that ignores the end of its script meets it. -/
def maxEnds : Nat := 50

/-- What the commands of a shell are read from. -/
structure Feed where
  descriptor : Nat
  /-- What has been read and not been run. -/
  source : Source
  /-- The next command has been asked for. -/
  isAsked : Bool
  /-- How many times the end has been met since the last command. -/
  ends : Nat

namespace Feed

/-- What is read from a descriptor, none of which has been read, from a line on. -/
def ofDescriptor (descriptor line : Nat) : Feed :=
  ⟨descriptor, { Source.ofText [] false [] 0 with line }, false, 0⟩

end Feed

/-- Shows the lines that have been read for a command, `left` characters being left, with a prompt
for each line after the first, as far as either is asked for.  How many lines ended before a fault
can be given. -/
def showRead (e : Engine) (s : Source) (left : Nat) (ended : Option Nat) : Act Unit := do
  let m ← get
  let showsLines := m.options.contains 'v'
  let read := s.text.take (s.text.length - left)
  let isOwed := !s.isComplete && read.getLast? = some '\n'
  let prompts := ended.getD (read.count '\n') - (if isOwed then 1 else 0)
  if m.asks && 0 < prompts then
    let lines := if showsLines then Text.pieces (s.linesBefore left) else []
    for n in List.range (max lines.length (prompts + 1)) do
      if 0 < n && n ≤ prompts then e.ask "PS2"
      complain (lines.getD n [])
  else if showsLines then showLines s left

/-- Does steps and gives whether they were done; where a shell that asks for commands fails in them,
it gets ready for other ones. -/
def persist (act : Act Unit) : Act Bool := do
  match ← attempt act with
  | .ok _ => return true
  | .error .failed =>
    unless (← get).asks do throw .failed
    popFrames 0
    popLocals 0
    modify fun m => { m with savedStatus := none, loops := 0, label := none }
    return false
  | .error flow => throw flow

/-- Runs the commands that are read from a feed, block by block. -/
def runFeed (e : Engine) : (fuel : Nat) → (f : Feed) → Act Unit
  | 0, _ => return
  | fuel + 1, f => do
    unless f.isAsked do e.ask "PS1"
    let f := { f with isAsked := true }
    let s := f.source
    let m ← get
    let readOn : Act Unit := do
      let _ ← flush
      match ← call (.read f.descriptor blockSize) with
      | .text [] => runFeed e fuel { f with source := { s with isComplete := true } }
      | .text t =>
        let text := s.text ++ t.filter (· ≠ '\x00')
        runFeed e fuel { f with source := { s with text } }
      | .interrupted => runFeed e fuel f
      | _ => runFeed e fuel { f with source := { s with isComplete := true } }
    match Shell.readCommand { s with aliases := m.aliases, nextDocument := m.nextDocument } with
    | .ended rest =>
      if !s.isComplete then readOn
      else
        e.showRead s 0 none
        if f.ends < maxEnds then
          if ← option 'I' then
            complain "\nUse \"exit\" to leave shell.\n".toList
            runFeed e fuel { f with source := rest, isAsked := false, ends := f.ends + 1 }
          else if (← get).asks then complain ['\n']
    | .fault .incomplete => readOn
    | .fault (.malformed message line left) =>
      e.showRead s left (some (line - s.line))
      let _ ← persist (failSyntax message line)
      runFeed e fuel (.ofDescriptor f.descriptor line)
    | .fault .tooDeep => fail "too deep".toList
    | .command c _ rest =>
      if m.asks || m.options.contains 'v' then e.showRead s rest.text.length none
      set { m with
        documents := rest.documents ++ m.documents
        nextDocument := rest.nextDocument
        sourceLine := rest.line }
      let act : Act Unit := do
        match c with
        | none => pure ()
        | some c =>
          let _ ← e.evaluate .plain c
      if ← persist act then
        let rest := { rest with documents := [] }
        runFeed e fuel { f with source := rest, isAsked := false, ends := 0 }
      else runFeed e fuel (.ofDescriptor f.descriptor rest.line)

/-- Runs the script that is read from a descriptor. -/
def runFrom (e : Engine) (descriptor : Nat) : Act Unit :=
  e.runFeed maxRounds (.ofDescriptor descriptor 1)

/-- Runs the script that is named for the start of shells that ask for commands, if it is there. -/
def runPreface (e : Engine) : Act Unit := do
  if (← get).asks && !((← get).value? "ENV".toList).all List.isEmpty then
    let path ← e.promptText "ENV"
    let descriptor ← freshDescriptor
    if (← openFile descriptor path .input).isNone then
      let t ← readAll descriptor maxRounds []
      close descriptor
      let _ ← persist (do
        let _ ← e.runScript t)

/-- Takes the working directory as it is told, if it is that one. -/
def adoptDirectory : Act Unit := do
  let m ← get
  match m.value? "PWD".toList with
  | some t =>
    if t.head? = some '/' then
      match (← files).resolve (Latin1.toText t) with
      | .ok place => if place = m.directory then set { m with directoryText := t }
      | .error _ => pure ()
  | none => pure ()
  let m ← get
  setVariable "PWD".toList (some m.directoryText) true false

/-- Decides on the options about which nothing has been said: a shell that asks for commands wants
to control jobs. -/
def decide : Act Unit := do
  let m ← get
  if m.options.contains 'i' && m.undecided.contains 'm' then setOption 'm' true
  modify fun m => { m with undecided := [] }

/-- Gets ready to run a script, with the options that have been decided on. -/
def prepare (e : Engine) : Act Unit := do
  if (← get).asks then settleSignals
  checkTerminal
  e.runPreface

/-- Starts a shell with its arguments and runs its script. -/
def begin (e : Engine) (arguments : List Text) : Act Unit := do
  adoptDirectory
  let found ← setAll true (arguments.length + 1) false arguments
  match found.rest with
  | [] =>
    if found.hasScript then fail "-c requires an argument".toList
    setOption 's' true
    decide
    e.prepare
    e.runFrom 0
  | first :: rest =>
    decide
    let readsInput := (← get).options.contains 's'
    if found.hasScript then
      match rest with
      | [] => pure ()
      | name :: others => modify fun m => { m with name, arguments := others }
      e.prepare
      let isDone ← persist (do
        let _ ← e.runText false (!readsInput) first)
      if readsInput || !isDone then e.runFrom 0
    else if readsInput then
      modify fun m => { m with arguments := first :: rest }
      e.prepare
      e.runFrom 0
    else
      let descriptor ← freshDescriptor
      match ← openFile descriptor first .input with
      | some failure => failOpening false first failure
      | none =>
        modify fun m => { m with name := first, arguments := rest }
        e.prepare
        e.runFrom descriptor

/-- The task of a shell. -/
def shellTask (e : Engine) (start : Start) : Task :=
  let act : Act Unit := do
    let number ← match ← call .self with
      | .number n => pure n
      | _ => pure 0
    let parent ← match ← call .parent with
      | .number n => pure n
      | _ => pure 0
    let ignored ← match ← call .ignored with
      | .signals list => pure list
      | _ => pure []
    set (Machine.fresh start number parent ignored)
    exitShell e.runner (← attempt (e.begin start.arguments))
  act.toTask (Machine.fresh start 0 0 [])

end Engine

/-- The engine that runs commands whose depth is bounded by `fuel`. -/
def engine : (fuel : Nat) → Engine
  | 0 =>
    { evaluate := fun _ _ => Act.fail "too deep".toList
      run := fun _ _ => Act.fail "too deep".toList
      shell := fun _ => .exit 2 }
  | fuel + 1 =>
    { evaluate := fun mode c => (engine fuel).evaluateWith mode c
      run := fun isTested t => (engine fuel).runText isTested false t
      shell := fun start => (engine fuel).shellTask start }

/-- How deep the commands of a script may lie in one another. -/
def maxNesting : Nat := 1000000000

/-- The task of a program that is started at a place. -/
def taskAt (place : Place) (start : Start) : Task :=
  programTask (fun start => (engine maxNesting).shellTask start) place start

end TemplateMap.Shell
