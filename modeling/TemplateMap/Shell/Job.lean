import TemplateMap.Shell.Variable

/-! Processes of a shell: those that it starts for parts of its script, the table in which it keeps
them, and the waiting for their ends. -/

namespace TemplateMap.Shell

open Tool (Status)

namespace Job

/-- Whether all processes have ended. -/
def isDone (j : Job) : Bool := j.processes.all fun (_, status) => status.isSome

/-- Whether a process is one of those of a job. -/
def has (j : Job) (process : Nat) : Bool := j.processes.any fun (n, _) => n = process

/-- The status of the last process, as far as it is known. -/
def status (j : Job) : Nat :=
  match j.processes.getLast? with
  | some (_, some (.code n)) => n
  | some (_, some (.signal n)) => n + 128
  | _ => 0

/-- The job after one of its processes has ended. -/
def noteEnd (j : Job) (process : Nat) (status : Status) : Job :=
  let processes := j.processes.map fun (n, s) =>
    if n = process then (n, some status) else (n, s)
  let j := { j with processes }
  { j with isChanged := j.isChanged || j.isDone }

end Job

/-- What signals are called in messages, from 1 on. -/
def signalMessages : List String :=
  ["Hangup", "Interrupt", "Quit", "Illegal instruction", "Trace/breakpoint trap", "Aborted",
    "Bus error", "Floating point exception", "Killed", "User defined signal 1",
    "Segmentation fault", "User defined signal 2", "Broken pipe", "Alarm clock", "Terminated",
    "Stack fault", "Child exited", "Continued", "Stopped (signal)", "Stopped",
    "Stopped (tty input)", "Stopped (tty output)", "Urgent I/O condition",
    "CPU time limit exceeded", "File size limit exceeded", "Virtual timer expired",
    "Profiling timer expired", "Window changed", "I/O possible", "Power failure",
    "Bad system call"]

/-- What a signal is called in messages. -/
def signalMessage (n : Nat) : String :=
  match signalMessages[n - 1]? with
  | some s => s
  | none => "Real-time signal " ++ toString (n - 34)

/-- The signals whose effects are not told. -/
def quietSignals : List Nat := [2, 13]

/-- How the shell is left where commands end; `run` runs a script of the shell. -/
abbrev ScriptRunner := Text → Act Nat

namespace Act

/-- How many rounds a loop of calls may take. -/
def maxRounds : Nat := 1000000000000

/-- Closes the frames of redirections around the current command, down to `count` of them, and puts
back what they have put aside; with `drops` the descriptors stay as they are. -/
def popFrame (drops : Bool) : Act Unit := do
  let m ← get
  match m.frames with
  | [] => return
  | frame :: rest =>
    set { m with frames := rest }
    for (descriptor, saved) in frame do
      match saved with
      | .closed => unless drops do close descriptor
      | .copy other =>
        unless drops do
          let _ ← copy other descriptor
        close other

/-- Takes frames of redirections off until `count` are left. -/
def popFrames (count : Nat) : Act Unit := do
  let m ← get
  for _ in List.range (m.frames.length - count) do
    popFrame false

/-- Ends the shell after its commands, which left off as `r` tells: the command for that is run, and
the process ends. -/
def exitShell (run : ScriptRunner) (r : Except Flow Unit) : Act Unit := do
  match r with
  | .error .exited => modify fun m => { m with status := m.savedStatus.getD m.status }
  | _ => pure ()
  modify fun m => { m with savedStatus := none, loops := 0, isTracing := false }
  popFrames 0
  let m ← get
  match m.traps.lookup 0 with
  | none => pure ()
  | some command =>
    let saved := m.status
    set { m with traps := m.traps.filter (·.1 ≠ 0), savedStatus := some saved }
    let keep : Act Unit := modify fun m => { m with status := m.savedStatus.getD saved }
    match ← attempt (run command) with
    | .error .failed | .error .ended => pure ()
    | _ => keep
    popFrames 0
  let _ ← flush
  exit ((← get).status % 256)

/-- How a process stands to the shell that starts it. -/
inductive Standing
  | foreground
  /-- In the background, with other processes of a pipeline before it or not. -/
  | background (isFirst : Bool)
  deriving DecidableEq

/-- Makes the state of a process that has just been started: commands for signals, jobs and what
redirections have put aside are not taken over. -/
def enterProcess (standing : Standing) : Act Unit := do
  let m ← get
  for (signal, command) in m.traps do
    unless command.isEmpty || signal = 0 do
      let _ ← call (.respond signal .standard)
  set { m with
    level := m.level + 1
    traps := m.traps.filter fun (_, command) => command.isEmpty
    pending := []
    frames := []
    jobs := [] }
  if m.asks then settleSignals
  match standing with
  | .foreground => pure ()
  | .background isFirst =>
    for signal in [2, 3] do
      let _ ← call (.respond signal .ignored)
    modify fun m => { m with ignored := [2, 3] ++ m.ignored }
    if isFirst then
      let _ ← openFile 0 "/dev/null".toList .input

/-- Makes a new job without processes and gives its slot. -/
def makeJob : Act Nat := do
  let m ← get
  let isFree (slot : Nat) : Bool :=
    m.jobs.all fun j => j.slot ≠ slot || (j.isDone && j.isWaited)
  let slot := ((List.range (m.jobs.length + 1)).find? isFree).getD m.jobs.length
  let job : Job := ⟨slot, [], false, false⟩
  set { m with jobs := job :: m.jobs.filter fun j => j.slot ≠ slot }
  return slot

/-- Takes a job out of the table. -/
def freeJob (slot : Nat) : Act Unit :=
  modify fun m => { m with jobs := m.jobs.filter fun j => j.slot ≠ slot }

/-- Changes a job. -/
def changeJob (slot : Nat) (change : Job → Job) : Act Unit :=
  modify fun m => { m with jobs := m.jobs.map fun j => if j.slot = slot then change j else j }

/-- The job in a slot. -/
def job? (slot : Nat) : Act (Option Job) := do
  return (← get).jobs.find? fun j => j.slot = slot

/-- Starts a process of a job, which does some steps and then ends as the shell does. -/
def start (run : ScriptRunner) (slot : Nat) (standing : Standing) (steps : Act Unit) : Act Nat := do
  let _ ← flush
  let n ← fork (do
    enterProcess standing
    exitShell run (← attempt steps))
  changeJob slot fun j => { j with processes := j.processes ++ [(n, none)] }
  match standing with
  | .foreground => pure ()
  | .background _ => modify fun m => { m with latest := some n }
  return n

/-- What waiting once for the end of a process gives. -/
inductive Waited
  | ended
  | nothing
  | interrupted
  deriving DecidableEq

/-- Waits once for the end of some process, and tells how it ended if it belongs to the job that is
awaited. -/
def waitOnce (blocking interruptible : Bool) (awaited : Option Nat) : Act Waited := do
  match ← call (.wait blocking interruptible) with
  | .ended n status =>
    let m ← get
    match m.jobs.find? fun j => !j.isDone && j.has n with
    | none => return .ended
    | some j =>
      changeJob j.slot fun j => j.noteEnd n status
      match status with
      | .signal s =>
        if awaited = some j.slot && !quietSignals.contains s then
          complain ((signalMessage s).toList ++ ['\n'])
      | .code _ => pure ()
      return .ended
  | .interrupted => return .interrupted
  | _ => return .nothing

/-- Takes note of all processes that have ended. -/
def noteEnds (awaited : Option Nat) : (fuel : Nat) → Act Unit
  | 0 => return
  | fuel + 1 => do
    if (← waitOnce false false awaited) = .ended then noteEnds awaited fuel

/-- Waits until a job is done; false where a signal comes first. -/
def waitUntilDone (interruptible : Bool) (slot : Nat) : (fuel : Nat) → Act Bool
  | 0 => return true
  | fuel + 1 => do
    match ← job? slot with
    | none => return true
    | some j =>
      if j.isDone then
        noteEnds (some slot) maxRounds
        return true
      else
        match ← waitOnce true interruptible (some slot) with
        | .interrupted => return false
        | .ended => waitUntilDone interruptible slot fuel
        | .nothing => return true

/-- Waits until a job is done and gives its status. -/
def waitForJob (slot : Nat) : Act Nat := do
  let _ ← waitUntilDone false slot maxRounds
  let status := match ← job? slot with
    | some j => j.status
    | none => 0
  freeJob slot
  return status

/-- All that is left to be read from a descriptor, after pieces, the last first. -/
def readAll (descriptor : Nat) : (fuel : Nat) → (pieces : List Text) → Act Text
  | 0, pieces => return pieces.reverse.flatten
  | fuel + 1, pieces => do
    match ← call (.read descriptor 4096) with
    | .text [] => return pieces.reverse.flatten
    | .text t => readAll descriptor fuel (t.filter (· ≠ '\x00') :: pieces)
    | .interrupted => readAll descriptor fuel pieces
    | _ => return pieces.reverse.flatten

/-- A descriptor that nothing else uses. -/
def freshDescriptor : Act Nat :=
  modifyGet fun m => (m.nextSaved, { m with nextSaved := m.nextSaved + 1 })

/-- A text without the line ends after it. -/
def withoutLineEnds (t : Text) : Text := (t.reverse.dropWhile (· = '\n')).reverse

/-- The output of steps that a process does, without the line ends after it. -/
def outputOf (run : ScriptRunner) (steps : Act Unit) : Act Text := do
  let reader ← freshDescriptor
  let writer ← freshDescriptor
  let _ ← call (.makePipe reader writer)
  let slot ← makeJob
  let _ ← start run slot .foreground (do
    close reader
    let _ ← copy writer 1
    close writer
    steps)
  close writer
  let t ← readAll reader maxRounds []
  close reader
  let status ← waitForJob slot
  modify fun m => { m with outputStatus := status }
  return withoutLineEnds t

end Act

end TemplateMap.Shell
