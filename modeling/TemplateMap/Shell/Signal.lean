import TemplateMap.Shell.Job
import TemplateMap.Shell.Settings

/-! Signals in scripts: their names, the commands that answer them, the sending of them, and the
commands that ask after jobs. -/

namespace TemplateMap.Shell

/-- The names of the signals from 0 on; those without one have their number. -/
def signalNames : List Text :=
  let low := ["EXIT", "HUP", "INT", "QUIT", "ILL", "TRAP", "ABRT", "BUS", "FPE", "KILL", "USR1",
    "SEGV", "USR2", "PIPE", "ALRM", "TERM", "16", "CHLD", "CONT", "STOP", "TSTP", "TTIN", "TTOU",
    "URG", "XCPU", "XFSZ", "VTALRM", "PROF", "WINCH", "IO", "PWR", "SYS", "32", "33", "RTMIN"]
  let up := (List.range 15).map fun n => "RTMIN+".toList ++ Text.ofNat (n + 1)
  let down := (List.range 14).map fun n => "RTMAX-".toList ++ Text.ofNat (14 - n)
  low.map String.toList ++ up ++ down ++ ["RTMAX".toList]

/-- The signal with a number, if there is one. -/
def signalNumber? (t : Text) : Option Nat :=
  if t.isEmpty || !t.all Char.isDigit then none
  else
    let n := Text.digitsValue 0 t
    if n < signalNames.length then some n else none

/-- The signal with a number or a name, if there is one; a name must be that of a signal from
`least` on. -/
def signal? (least : Nat) (t : Text) : Option Nat :=
  match signalNumber? t with
  | some n => some n
  | none =>
    let same (n : Nat) : Bool :=
      (signalNames[n]?).any fun name => name.asciiLower = t.asciiLower
    ((List.range signalNames.length).drop least).find? same

/-- The name of a signal. -/
def signalName (n : Nat) : Text := (signalNames[n]?).getD []

namespace Act

/-- Changes what the shell does about a signal: it runs a command, ignores the signal, or leaves it
to the system. -/
def answer (signal : Nat) (command : Option Text) : Act Unit := do
  modify fun m =>
    let others := m.traps.filter (·.1 ≠ signal)
    { m with traps := match command with
        | some c => (signal, c) :: others
        | none => others }
  let m ← get
  unless signal = 0 || m.ignored.contains signal do
    let response : TemplateMap.System.Response := match command with
      | none => m.response signal
      | some [] => .ignored
      | some _ => .noted
    let _ ← call (.respond signal response)

/-- Changes what the shell does about signals, until a name is that of none. -/
def answerAll (command : Option Text) : List Text → Act Nat
  | [] => return 0
  | name :: rest => do
    match signal? 0 name with
    | none =>
      complain ("trap: ".toList ++ name ++ ": bad trap\n".toList)
      return 1
    | some signal =>
      answer signal (if command = some ['-'] then none else command)
      answerAll command rest

/-- The command that shows or sets the commands that answer signals. -/
def trapCommand (arguments : List Text) : Act Nat := do
  match ← operands arguments with
  | [] =>
    let m ← get
    for signal in List.range signalNames.length do
      match m.traps.lookup signal with
      | some command =>
        print ("trap -- ".toList ++ quotedValue command ++ ' ' :: signalName signal ++ ['\n'])
      | none => pure ()
    return 0
  | [name] => answerAll none [name]
  | first :: rest =>
    if (signalNumber? first).isSome then answerAll none (first :: rest)
    else answerAll (some first) rest

/-- How the command that sends signals is used. -/
def killUsage : String :=
  "Usage: kill [-s sigspec | -signum | -sigspec] [pid | job]... or\nkill -l [exitstatus]"

/-- The job that a text names. -/
def jobNamed (t : Text) : Act Job := do
  let m ← get
  let missing : Act Job := fail ("No such job: ".toList ++ t)
  let first (message : String) : List Job → Act Job
    | [] => fail message.toList
    | j :: _ => return j
  match t with
  | ['%'] | ['%', '+'] | ['%', '%'] => first "No current job" m.jobs
  | ['%', '-'] => first "No previous job" (m.jobs.drop 1)
  | '%' :: rest =>
    if !rest.isEmpty && rest.all Char.isDigit then
      match m.jobs.find? fun j => j.slot + 1 = Text.digitsValue 0 rest with
      | some j => return j
      | none => missing
    else missing
  | _ => missing

/-- Sends a signal to what arguments name, and gives the status. -/
def sendAll (signal : Nat) : (status : Nat) → List Text → Act Nat
  | status, [] => return status
  | status, t :: rest => do
    let missing : Act Nat := do
      warn "No such process\n".toList
      sendAll signal 1 rest
    match t with
    | '%' :: _ =>
      let _ ← jobNamed t
      missing
    | '-' :: group =>
      let _ ← natural group
      missing
    | _ =>
      match ← call (.send (← natural t) signal) with
      | .failed _ => missing
      | _ => sendAll signal status rest

/-- Shows the names of signals, or of one that a number or a status tells. -/
def listSignals : List Text → Act Nat
  | [] => do
    print ['0', '\n']
    for name in signalNames.drop 1 do
      print (name ++ ['\n'])
    return 0
  | t :: _ => do
    let n ← natural t
    let n := if 128 < n then n - 128 else n
    if 0 < n && n < signalNames.length then
      print (signalName n ++ ['\n'])
      return 0
    else fail ("invalid signal number or exit status: ".toList ++ t)

/-- The command that sends signals. -/
def killCommand (arguments : List Text) : Act Nat := do
  let usage : Act Nat := fail killUsage.toList
  match arguments with
  | [] => usage
  | ('-' :: name) :: rest =>
    match signal? 1 name with
    | some signal => if rest.isEmpty then usage else sendAll signal 0 rest
    | none =>
      let (options, rest) ← letters "ls:" arguments
      let lists := options.any (·.1 = 'l')
      let mut signal := none
      for (c, value) in options do
        if c = 's' then
          match signal? 1 value with
          | some n => signal := some n
          | none => fail ("invalid signal number or name: ".toList ++ value)
      if lists then
        if signal.isSome && !rest.isEmpty then usage else listSignals rest
      else if rest.isEmpty then usage
      else sendAll (signal.getD 15) 0 rest
  | _ => sendAll 15 0 arguments

/-- How a job is shown. -/
def jobState (j : Job) : Text :=
  if !j.isDone then "Running".toList
  else
    match j.processes.getLast? with
    | some (_, some (.signal n)) => (signalMessage n).toList
    | some (_, some (.code 0)) | some (_, none) | none => "Done".toList
    | some (_, some (.code n)) => "Done(".toList ++ Text.ofNat n ++ [')']

/-- Shows a job, and takes it out of the table when it is done. -/
def showJob (j : Job) (mode : Option Char) : Act Unit := do
  let m ← get
  let number (p : Nat × Option Tool.Status) : Text := Text.ofNat p.1
  match mode, j.processes with
  | some 'p', p :: _ => print (number p ++ ['\n'])
  | _, _ =>
    let isSlot (k : Nat) : Bool := (m.jobs[k]?).any fun other => other.slot = j.slot
    let mark := if isSlot 0 then '+' else if isSlot 1 then '-' else ' '
    let head := '[' :: Text.ofNat (j.slot + 1) ++ [']', ' ', mark, ' ']
    let padded (t : Text) : Text := t ++ List.replicate (max 1 (33 - t.length)) ' '
    match mode, j.processes with
    | some 'l', p :: rest =>
      print (padded (head ++ number p ++ ' ' :: jobState j))
      for p in rest do
        print ([' ', '|', '\n'] ++
          padded (List.replicate head.length ' ' ++ number p ++ [' ']))
      print ['\n']
    | _, _ =>
      print (padded (head ++ jobState j) ++
        (j.processes.drop 1).flatMap (fun _ => " | ".toList) ++ ['\n'])
    if j.isDone then freeJob j.slot
    else changeJob j.slot fun j => { j with isChanged := false }

/-- The command that shows jobs. -/
def jobsCommand (arguments : List Text) : Act Nat := do
  let (options, rest) ← letters "lp" arguments
  let mode := if options.any (·.1 = 'p') then some 'p'
    else if options.any (·.1 = 'l') then some 'l' else none
  if rest.isEmpty then
    noteEnds none maxRounds
    for j in (← get).jobs do
      showJob j mode
  else
    for t in rest do
      showJob (← jobNamed t) mode
  return 0

/-- The command that would put a job in the foreground or the background. -/
def groundCommand (arguments : List Text) : Act Nat := do
  let refuse {α : Type} (name : String) : Act α :=
    fail ("job ".toList ++ name.toList ++ " not created under job control".toList)
  match ← operands arguments with
  | [] =>
    let _ ← jobNamed ['%']
    refuse "(null)"
  | t :: _ =>
    let _ ← jobNamed t
    refuse t.str

/-- The status for a signal that has come while a job was awaited. -/
def interruptedStatus : Act Nat := do
  match ← call .step with
  | .signals came =>
    modify fun m => { m with pending := m.pending ++ came }
    return 128 + came.getLast?.getD 0
  | _ => return 128

/-- Waits for all jobs. -/
def waitForAll : (fuel : Nat) → Act Nat
  | 0 => return 0
  | fuel + 1 => do
    let m ← get
    if m.jobs.all Job.isDone then
      modify fun m => { m with jobs := m.jobs.map fun j => { j with isWaited := true } }
      return 0
    else
      match ← waitOnce true true none with
      | .interrupted => interruptedStatus
      | .nothing => return 0
      | .ended => waitForAll fuel

/-- Waits for the jobs that arguments name, and gives the status of the last one. -/
def waitForEach : (status : Nat) → List Text → Act Nat
  | status, [] => return status
  | status, t :: rest => do
    let found ← match t with
      | '%' :: _ => do pure (some (← jobNamed t))
      | _ => do
        let n ← natural t
        let m ← get
        pure (m.jobs.find? fun j => j.processes.getLast?.any fun p => p.1 = n)
    match found with
    | none => waitForEach status rest
    | some j =>
      if ← waitUntilDone true j.slot maxRounds then
        changeJob j.slot fun j => { j with isWaited := true }
        let status := match ← job? j.slot with
          | some j => j.status
          | none => 0
        waitForEach status rest
      else interruptedStatus

/-- The command that waits for jobs. -/
def waitCommand (arguments : List Text) : Act Nat := do
  match ← operands arguments with
  | [] => waitForAll maxRounds
  | names => waitForEach 127 names

end Act

end TemplateMap.Shell
