import TemplateMap.Program.Standard
import TemplateMap.Shell.Builtin
import TemplateMap.Shell.Redirect

/-! The running of commands.  What runs the commands inside of a command is an engine that is given,
so that the ways to put commands together are described one by one. -/

namespace TemplateMap.Shell

open TemplateMap.System (Start Task)

/-- How a command is run. -/
structure Mode where
  /-- What comes next depends on the status, so a failure is not the end of the shell. -/
  isTested : Bool
  /-- The process ends with the command. -/
  isLast : Bool

namespace Mode

/-- That of a command on its own. -/
def plain : Mode := ⟨false, false⟩

/-- That of a command whose status is looked at. -/
def tested : Mode := ⟨true, false⟩

end Mode

/-- What runs commands, scripts and shells. -/
structure Engine where
  evaluate : Mode → Command → Act Nat
  run : (isTested : Bool) → Text → Act Nat
  shell : Start → Task

/-- The task of the program at a place. -/
def programTask (shell : Start → Task) (place : Place) (start : Start) : Task :=
  let name := place.getLast?.getD []
  match Program.named? name with
  | some program => program start
  | none => shell start

namespace Engine

open Act

/-- Runs a script. -/
def runner (e : Engine) : ScriptRunner := e.run false

/-- Takes the output of a command. -/
def take (e : Engine) : OutputTaker
  | none => return []
  | some c =>
    outputOf e.runner do
      let _ ← e.evaluate ⟨false, true⟩ c

/-- Runs the commands for signals that have come; `status` is what the status is then, and `saved`
what was saved before. -/
def answerEach (e : Engine) (status : Nat) (saved : Option Nat) : List Nat → Act Unit
  | [] => modify fun m => { m with savedStatus := saved }
  | signal :: rest => do
    match (← get).traps.lookup signal with
    | none =>
      if signal = 2 then
        modify fun m => { m with status := 130, savedStatus := none, pending := [] }
        complain ['\n']
        throw .failed
      answerEach e status saved rest
    | some [] => answerEach e status saved rest
    | some command =>
      let restore (m : Machine) : Machine :=
        { m with savedStatus := saved, pending := rest ++ m.pending }
      match ← attempt (e.runner command) with
      | .ok _ =>
        modify fun m => { m with status }
        answerEach e status saved rest
      | .error (.returned true) =>
        modify restore
        throw (.returned true)
      | .error (.returned false) =>
        modify fun m => { restore m with status }
        throw (.returned false)
      | .error (.leave count goesOn) =>
        modify fun m => { restore m with status }
        throw (.leave count goesOn)
      | .error flow => throw flow

/-- Answers the signals that have come. -/
def answerSignals (e : Engine) : Act Unit := do
  let came ← match ← call .step with
    | .signals came => pure came
    | _ => pure []
  let m ← get
  let pending := m.pending ++ came.filter fun signal => !m.pending.contains signal
  unless pending.isEmpty do
    let status := m.savedStatus.getD m.status
    set { m with pending := [], savedStatus := some status }
    e.answerEach status m.savedStatus (pending.mergeSort fun a b => a ≤ b)

/-- The arguments that the first words become that become some, and the words after them. -/
def firstArguments (e : Engine) : List Word → Act (List Text × List Word)
  | [] => return ([], [])
  | w :: rest => do
    match ← fieldsOfWord e.take w with
    | [] => firstArguments e rest
    | found => return (found, rest)

/-- What is known of a simple command before its redirections are made. -/
structure Prepared where
  /-- The arguments that are expanded: the name comes first. -/
  arguments : List Text
  words : List Word
  /-- Arguments that only say how the command is looked for. -/
  before : List Text
  /-- The name is that of a special builtin command, or it is none at all. -/
  isSpecial : Option Bool
  /-- Assignments in front are local to the command. -/
  isLocal : Bool
  /-- The name can be that of a function. -/
  allowsFunction : Bool
  /-- The path in which a program is searched for, if it is not the usual one. -/
  path : Option Text
  /-- Arguments that are assignments stay whole. -/
  marks : Bool
  /-- The shell itself becomes the command. -/
  replacesShell : Bool

/-- The arguments after those that tell how a command is looked for: they, the words and the path
are none where the arguments ask for something else. -/
def afterLookupOptions (e : Engine) : (fuel : Nat) → (p : Prepared) → Act (Option Prepared)
  | 0, _ => return none
  | fuel + 1, p => do
    match p.arguments with
    | [] =>
      match ← e.firstArguments p.words with
      | ([], _) => return none
      | (arguments, words) => afterLookupOptions e fuel { p with arguments, words }
    | ['-', '-'] :: rest =>
      let p := { p with before := p.before ++ [['-', '-']] }
      match rest with
      | [] =>
        match ← e.firstArguments p.words with
        | ([], _) => return none
        | (arguments, words) => return some { p with arguments, words }
      | rest => return some { p with arguments := rest }
    | ('-' :: c :: letters) :: rest =>
      if (c :: letters).all (· = 'p') then
        afterLookupOptions e fuel { p with
          arguments := rest, path := some standardPath
          before := p.before ++ ['-' :: c :: letters] }
      else return none
    | _ => return some p

/-- Finds out what the name of a command is that of. -/
def prepared (e : Engine) : (fuel : Nat) → (p : Prepared) → Act Prepared
  | 0, p => return p
  | fuel + 1, p => do
    let m ← get
    match p.arguments with
    | [] => return p
    | name :: rest =>
      let isFunction := p.allowsFunction && (m.functions.lookup name).isSome
      if isFunction || !(← isFixedBuiltin name) then
        return { p with isLocal := true, marks := false }
      else
        let isSpecial := isSpecialName name
        let p := { p with
          isSpecial := p.isSpecial.or (some isSpecial)
          isLocal := p.isSpecial.isSome || !isSpecial
          replacesShell := name.str = "exec"
          marks := ["export", "readonly", "local", "alias"].contains name.str }
        if name.str ≠ "command" then return p
        else
          let inside := { p with
            arguments := rest, allowsFunction := false, before := p.before ++ [name] }
          match ← e.afterLookupOptions maxRounds inside with
          | none => return p
          | some inside => prepared e fuel inside

/-- The text of a variable with the expansions in it made. -/
def promptText (e : Engine) (name : String) : Act Text := do
  let t := ((← get).value? name.toList).getD []
  let owed : Owed := ⟨0, ['\x00'], true, false⟩
  let rules := Reader.rulesAt Reader.maxDepth
  match (Reader.document rules Reader.maxDepth owed).run (Source.ofText t true [] 0) with
  | .error _ => return t
  | .ok (word, _) =>
    match ← attempt (textOf e.take .document false word) with
    | .ok t => return t
    | .error _ => return t

/-- The text that stands in front of a traced command. -/
def tracePrompt (e : Engine) : Act Text := do
  modify fun m => { m with isTracing := true }
  let t ← e.promptText "PS4"
  modify fun m => { m with isTracing := false }
  return t

/-- Traces a command, if that is asked for; its own redirections do not hold for that. -/
def trace (e : Engine) (isRedirected : Bool) (texts : List Text) : Act Unit := do
  let m ← get
  if m.options.contains 'x' && !m.isTracing then
    let prompt ← e.tracePrompt
    let messages ← if isRedirected then earlierMessages else pure 2
    let _ ← write messages (prompt ++ Text.joined [' '] texts ++ ['\n'])

/-- Makes the assignments in front of a command and gives them as texts. -/
def makeAssignments (e : Engine) (p : Prepared) :
    List (Text × Word) → Act (List Text)
  | [] => return []
  | (name, word) :: rest => do
    let value ← textOf e.take .assignment true word
    let t := name ++ '=' :: value
    if p.isLocal then makeLocal t true
    else setVariable name (some value) (p.replacesShell && 1 < p.arguments.length) false
    return t :: (← makeAssignments e p rest)

/-- The variables that programs are given. -/
def environment : Act (List (Text × Text)) := do
  return (← get).bindings.filterMap fun (name, v) =>
    if v.isExported then v.value.map fun value => (name, value) else none

/-- Becomes the first of some programs that there is; `failure` is why there was none before. -/
def becomeOne (e : Engine) (start : Start) (fs : FileSystem) (failure : IoError) :
    List Text → Act Unit
  | [] => do
    let status := match failure with
      | .notFound | .notADirectory | .nameTooLong => 127
      | _ => 126
    failWith status .ended (start.name ++ ": ".toList ++ (startFailure failure).toList)
  | path :: rest => do
    match fs.resolveFrom start.directory (Latin1.toText path) with
    | .error .notFound | .error .notADirectory => becomeOne e start fs failure rest
    | .error other => becomeOne e start fs other rest
    | .ok place =>
      match fs.node? place with
      | none => becomeOne e start fs failure rest
      | some .program =>
        let stack ← match ← call (.bounds .stack) with
          | .bounds b => pure b.soft
          | _ => pure none
        if start.fits path stack then
          replace (.call .become fun _ => programTask e.shell place start)
        else becomeOne e start fs .argumentsTooLong rest
      | some _ => becomeOne e start fs .permissionDenied rest

/-- Becomes a program, which is searched for from a directory of a path on. -/
def become (e : Engine) (path : Text) (index : Nat) (arguments : List Text) : Act Unit := do
  let name := arguments.headD []
  let paths :=
    if name.contains '/' then [name] else ((candidates path name).drop index).filterMap id
  let start : Start := ⟨name, arguments.drop 1, ← environment, (← get).directory⟩
  e.becomeOne start (← files) .notFound paths

/-- Runs a program and gives its status. -/
def runProgram (e : Engine) (mode : Mode) (path : Text) (index : Nat) (arguments : List Text) :
    Act Nat := do
  if mode.isLast && !(← get).hasTraps then
    e.become path index arguments
    return 0
  else
    let slot ← makeJob
    let _ ← start e.runner slot .foreground (e.become path index arguments)
    waitForJob slot

/-- How deep functions may call one another. -/
def maxCalls : Nat := 1000

/-- Runs a function and gives its status. -/
def callFunction (e : Engine) (mode : Mode) (f : Function) (arguments : List Text) : Act Nat := do
  let m ← get
  if maxCalls ≤ m.calls then
    fail ("Maximum function recursion depth (".toList ++ Text.ofNat maxCalls ++
      ") reached".toList)
  set { m with arguments, cursor := ⟨1, none⟩, loops := 0, calls := m.calls + 1 }
  let r ← attempt (e.evaluate ⟨mode.isTested, false⟩ f.body)
  modify fun now => { now with
    arguments := m.arguments, cursor := m.cursor, loops := m.loops, calls := m.calls }
  match r with
  | .error (.returned _) => return (← get).status
  | r => resume r

/-- Shows a prompt, if the shell asks for commands. -/
def ask (e : Engine) (name : String) : Act Unit := do
  if (← get).asks then complain (← e.promptText name)

/-- Shows the lines of a source that have been looked at when `left` characters are left. -/
def showLines (s : Source) (left : Nat) : Act Unit := complain (s.linesBefore left)

/-- How a source is run. -/
structure SourceMode where
  isTested : Bool
  /-- The process ends with the last command. -/
  exits : Bool
  /-- The lines can be shown as they are read. -/
  shows : Bool

/-- Runs the commands of a source one after the other. -/
def runSource (e : Engine) (mode : SourceMode) : (fuel : Nat) → (s : Source) → (status : Nat) →
    Act Nat
  | 0, _, status => return status
  | fuel + 1, s, status => do
    let m ← get
    let shows := mode.shows && m.options.contains 'v'
    match Shell.readCommand { s with aliases := m.aliases, nextDocument := m.nextDocument } with
    | .ended _ =>
      if shows then showLines s 0
      return status
    | .fault (.malformed message line left) =>
      if shows then showLines s left
      failSyntax message line
    | .fault .incomplete => return status
    | .fault .tooDeep => fail "too deep".toList
    | .command c isLast rest =>
      if shows then showLines s rest.text.length
      set { m with
        documents := rest.documents ++ m.documents
        nextDocument := rest.nextDocument
        sourceLine := rest.line }
      let rest := { rest with documents := [] }
      match c with
      | none => runSource e mode fuel rest status
      | some c =>
        let status ← e.evaluate ⟨mode.isTested, mode.exits && isLast⟩ c
        runSource e mode fuel rest status

/-- Runs a text and gives its status; with `exits` the process ends with the last command. -/
def runText (e : Engine) (isTested exits : Bool) (t : Text) : Act Nat :=
  e.runSource ⟨isTested, exits, false⟩ maxRounds (Source.ofText t true [] 0) 0

/-- The file that a command names that runs a script in the shell itself. -/
def scriptPath (name : Text) : Act Text := do
  if name.contains '/' then return name
  else
    let m ← get
    let fs ← files
    let isFile (path : Text) : Bool :=
      match fs.lookFrom? m.directory (Latin1.toText path) with
      | some (.file _) | some .program => true
      | _ => false
    let paths := (pathDirectories m.searchPath).map fun directory => inDirectory directory name
    match paths.find? isFile with
    | some path => return path
    | none => failAbout name "not found"

/-- The text of the script at a path. -/
def scriptAt (path : Text) : Act Text := do
  let descriptor ← freshDescriptor
  match ← openFile descriptor path .input with
  | some failure => failOpening false path failure
  | none =>
    let t ← readAll descriptor maxRounds []
    close descriptor
    return t

/-- Runs the text of a script in the shell itself. -/
def runScript (e : Engine) (t : Text) : Act Nat := do
  match ← attempt (e.runSource ⟨false, false, true⟩ maxRounds (Source.ofText t true [] 0) 0) with
  | .error (.returned _) => return (← get).status
  | r => resume r

/-- Runs the script that is to define a function, and gives the function. -/
def readFunction (e : Engine) (name path : Text) : Act Function := do
  let _ ← e.runScript (← scriptAt path)
  match (← get).functions.lookup name with
  | some f => return f
  | none => fail (name ++ " not defined in ".toList ++ path)

/-- The command that runs a script in the shell itself. -/
def sourceCommand (e : Engine) (arguments : List Text) : Act Nat := do
  match ← operands arguments with
  | [] => return 0
  | name :: _ =>
    let path ← scriptPath name
    let t ← scriptAt path
    modify fun m => { m with label := some path }
    e.runScript t

/-- The command that runs its arguments as a script. -/
def evalCommand (e : Engine) (mode : Mode) (arguments : List Text) : Act Nat :=
  if arguments.isEmpty then return 0
  else e.run mode.isTested (Text.joined [' '] arguments)

/-- The command that makes the shell become a program. -/
def execCommand (e : Engine) (arguments : List Text) : Act Nat := do
  let operands ← operands arguments
  unless operands.isEmpty do
    if (← get).asks then
      setOption 'i' false
      settleSignals
    e.become (← get).searchPath 0 operands
  return 0

/-- Runs a builtin command, writes what it prints, and gives its status. -/
def runBuiltin (e : Engine) (mode : Mode) (isSpecial : Bool) (name : Text)
    (arguments : List Text) : Act Nat := do
  let label := (← get).label
  modify fun m => { m with label := some name }
  let act : Act Nat :=
    match name.str with
    | "." => e.sourceCommand arguments
    | "eval" => e.evalCommand mode arguments
    | "exec" => e.execCommand arguments
    | _ =>
      match plainCommand? name with
      | some act => act arguments
      | none => return 0
  let r ← attempt (do
    let status ← act
    match ← flush with
    | none => return status
    | some _ =>
      warn (name ++ ": I/O error".toList)
      return status ||| 1)
  modify fun m => { m with label }
  match r with
  | .ok status =>
    modify fun m => { m with status }
    return status
  | .error .failed => if isSpecial then throw .failed else return (← get).status
  | .error flow => throw flow

/-- Runs a simple command whose redirections have been made, with its assignments. -/
def runPrepared (e : Engine) (mode : Mode) (isRedirected : Bool) (p : Prepared)
    (assignments : List (Text × Word)) : Act Nat := do
  let made ← e.makeAssignments p assignments
  e.trace isRedirected (made ++ p.before ++ p.arguments)
  match p.arguments with
  | [] => return (← get).outputStatus
  | name :: rest =>
    if p.isSpecial.isSome && (← isFixedBuiltin name) then
      e.runBuiltin mode (p.isSpecial = some true) name rest
    else
      let status ← match ← meaning name p.allowsFunction p.path true with
        | .function f => e.callFunction mode f rest
        | .unread path => e.callFunction mode (← e.readFunction name path) rest
        | .builtin => e.runBuiltin mode false name rest
        | .program index =>
          let path := p.path.getD (← get).searchPath
          e.runProgram mode path (index.getD 0) p.arguments
        | .nothing => pure 127
      return status

/-- Runs a simple command and gives its status. -/
def simple (e : Engine) (mode : Mode) (line : Nat) (assignments : List (Text × Word))
    (words : List Word) (redirections : List Redirection) : Act Nat := do
  modify fun m => { m with line, outputStatus := 0 }
  let (arguments, words) ← e.firstArguments words
  let p ← e.prepared maxRounds
    ⟨arguments, words, [], none, false, true, none, false, false⟩
  let others ← p.words.mapM (argumentsOf e.take p.marks)
  let p := { p with arguments := p.arguments ++ others.flatten, words := [] }
  let m ← get
  if p.isLocal then pushLocals
  let changes ← redirections.mapM (change e.take)
  let r ← attempt (do
    if ← enterChanges e.take changes then e.runPrepared mode (!changes.isEmpty) p assignments
    else
      modify fun m => { m with status := 2 }
      if p.isSpecial = some true then throw .failed else return 2)
  unless changes.isEmpty do
    popFrames (m.frames.length + 1)
    popFrame (p.replacesShell && (match r with
      | .ok _ => true
      | _ => false))
  popFrames m.frames.length
  match r with
  | .error .failed | .error .exited | .error .ended => pure ()
  | _ => popLocals m.locals.length
  unless (← get).jobs.isEmpty do noteEnds none maxRounds
  resume r

/-- Runs a command with its redirections made. -/
def withRedirections (e : Engine) (mode : Mode) (line : Nat) (body : Command)
    (redirections : List Redirection) : Act Nat := do
  modify fun m => { m with line }
  let changes ← redirections.mapM (change e.take)
  let r ← attempt (do
    if ← enterChanges e.take changes then e.evaluate ⟨mode.isTested, false⟩ body else return 2)
  unless changes.isEmpty do popFrame false
  resume r

/-- Runs commands in a process of their own. -/
def subshell (e : Engine) (mode : Mode) (line : Nat) (body : Command)
    (redirections : List Redirection) (inBackground : Bool) : Act Nat := do
  modify fun m => { m with line }
  let changes ← redirections.mapM (change e.take)
  let steps (isTested : Bool) : Act Unit := do
    makeChanges e.take false changes
    let _ ← e.evaluate ⟨isTested, true⟩ body
  if inBackground then
    let slot ← makeJob
    let _ ← start e.runner slot (.background true) (steps false)
    return 0
  else if mode.isLast && !(← get).hasTraps then
    steps mode.isTested
    return (← get).status
  else
    let slot ← makeJob
    let _ ← start e.runner slot .foreground (steps mode.isTested)
    waitForJob slot

/-- Looks for the program that a command names before the process for it is started. -/
def lookAhead : Command → Act Unit
  | .simple _ _ ([.plain name] :: _) _ => do
    if isName name then
      let _ ← meaning name true none false
  | _ => return

/-- Starts the processes of a pipeline; the first of them reads what comes from `previous`. -/
def startStages (e : Engine) (mode : Mode) (isBackground : Bool) (slot : Nat)
    (previous : Option Nat) : List Command → Act Unit
  | [] => return
  | c :: rest => do
    lookAhead c
    let ends ← if rest.isEmpty then pure none
      else do
        let reader ← freshDescriptor
        let writer ← freshDescriptor
        let _ ← call (.makePipe reader writer)
        pure (some (reader, writer))
    let standing : Standing :=
      if isBackground then .background previous.isNone else .foreground
    let _ ← start e.runner slot standing (do
      match previous with
      | some reader =>
        let _ ← copy reader 0
        close reader
      | none => pure ()
      match ends with
      | some (reader, writer) =>
        close reader
        let _ ← copy writer 1
        close writer
      | none => pure ()
      let _ ← e.evaluate ⟨mode.isTested, true⟩ c)
    match previous with
    | some reader => close reader
    | none => pure ()
    match ends with
    | some (_, writer) => close writer
    | none => pure ()
    startStages e mode isBackground slot (ends.map Prod.fst) rest

/-- Runs a pipeline. -/
def pipeline (e : Engine) (mode : Mode) (stages : List Command) (isBackground : Bool) :
    Act Nat := do
  let slot ← makeJob
  e.startStages mode isBackground slot none stages
  if isBackground then return 0 else waitForJob slot

/-- What a loop does after one of its parts. -/
inductive LoopStep
  | goOn (status : Nat)
  | finish (status : Nat)

/-- What a loop does after a part that left off, or goes on leaving off; `status` is that of the
loop before. -/
def afterLeaving (flow : Flow) (status : Nat) : Act LoopStep := do
  match flow with
  | .leave count goesOn =>
    if count ≤ 1 then return if goesOn then .goOn status else .finish status
    else
      modify fun m => { m with status }
      throw (.leave (count - 1) goesOn)
  | flow => throw flow

/-- Runs the body of a loop once. -/
def runBody (e : Engine) (isTested : Bool) (body : Command) : Act LoopStep := do
  match ← attempt (e.evaluate ⟨isTested, false⟩ body) with
  | .ok status => return .goOn status
  | .error flow => afterLeaving flow (← get).status

/-- Runs a loop; `status` is that of the last round. -/
def loop (e : Engine) (isTested untilSuccess : Bool) (test body : Command) :
    (fuel : Nat) → (status : Nat) → Act Nat
  | 0, status => return status
  | fuel + 1, status => do
    match ← attempt (e.evaluate .tested test) with
    | .error (.returned false) =>
      modify fun m => { m with status }
      throw (.returned false)
    | .error flow =>
      match ← afterLeaving flow status with
      | .goOn status => loop e isTested untilSuccess test body fuel status
      | .finish status => return status
    | .ok found =>
      if (found = 0) = untilSuccess then return status
      else
        match ← e.runBody isTested body with
        | .goOn status => loop e isTested untilSuccess test body fuel status
        | .finish status => return status

/-- Runs the body of a loop with a name standing for each of some texts; `status` is that of the
last round. -/
def each (e : Engine) (isTested : Bool) (name : Text) (body : Command) :
    (texts : List Text) → (status : Nat) → Act Nat
  | [], status => return status
  | t :: rest, _ => do
    assign name t
    match ← e.runBody isTested body with
    | .goOn status => each e isTested name body rest status
    | .finish status => return status

/-- Does steps inside of one more loop. -/
def insideLoop (act : Act Nat) : Act Nat := do
  let loops := (← get).loops
  modify fun m => { m with loops := loops + 1 }
  let r ← attempt act
  modify fun m => { m with loops }
  resume r

/-- Whether a text matches one of some words. -/
def matchesOne (e : Engine) (t : Text) : List Word → Act Bool
  | [] => return false
  | w :: rest => do
    if matchesPattern (← patternOf e.take w) t then return true else matchesOne e t rest

/-- The arm of a choice whose words a text matches, if there is one. -/
def chosenArm (e : Engine) (t : Text) :
    List (List Word × Option Command) → Act (Option Command)
  | [] => return none
  | (words, body) :: rest => do
    if ← e.matchesOne t words then return body else chosenArm e t rest

/-- Runs a command and gives its status, and whether it is one whose failure can be the end of the
shell. -/
def dispatch (e : Engine) (mode : Mode) (c : Command) : Act (Nat × Bool) := do
  match c with
  | .simple line assignments words redirections =>
    return (← e.simple mode line assignments words redirections, true)
  | .redirected line body redirections =>
    return (← e.withRedirections mode line body redirections, false)
  | .subshell line body redirections =>
    return (← e.subshell mode line body redirections false, true)
  | .background line body redirections =>
    return (← e.subshell mode line body redirections true, true)
  | .pipeline stages isBackground => return (← e.pipeline mode stages isBackground, true)
  | .negated body =>
    let status ← e.evaluate .tested body
    return (if status = 0 then 1 else 0, false)
  | .both first second =>
    let status ← e.evaluate .tested first
    if status ≠ 0 then return (status, false) else return (← e.evaluate mode second, false)
  | .either first second =>
    let status ← e.evaluate .tested first
    if status = 0 then return (status, false) else return (← e.evaluate mode second, false)
  | .sequence first second =>
    let _ ← e.evaluate ⟨mode.isTested, false⟩ first
    return (← e.evaluate mode second, false)
  | .conditional test yes no =>
    let status ← e.evaluate .tested test
    match if status = 0 then some yes else no with
    | some c => return (← e.evaluate mode c, false)
    | none => return (0, false)
  | .loop untilSuccess test body =>
    return (← insideLoop (e.loop mode.isTested untilSuccess test body maxRounds 0), false)
  | .each line name words body =>
    modify fun m => { m with line }
    let texts ← words.mapM (fieldsOfWord e.take)
    return (← insideLoop (e.each mode.isTested name body texts.flatten 0), false)
  | .choice line word arms =>
    modify fun m => { m with line }
    let t ← textOf e.take .text true word
    match ← e.chosenArm t arms with
    | some c => return (← e.evaluate mode c, false)
    | none => return (0, false)
  | .define line name body =>
    modify fun m => { m with
      functions := (name, ⟨line, body⟩) :: m.functions.filter (·.1 ≠ name)
      tracked := m.tracked.filter (·.1 ≠ name) }
    return (0, false)

/-- Runs a command and gives its status. -/
def evaluateWith (e : Engine) (mode : Mode) (c : Command) : Act Nat := do
  let isIdle ← option 'n'
  let (status, isChecked) ←
    if isIdle then pure (0, false)
    else do
      e.answerSignals
      let (status, isChecked) ← e.dispatch mode c
      modify fun m => { m with status }
      pure (status, isChecked)
  e.answerSignals
  if mode.isLast || (isChecked && status ≠ 0 && !mode.isTested && (← option 'e')) then
    throw .ended
  else return status

end Engine

end TemplateMap.Shell
