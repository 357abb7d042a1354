import TemplateMap.System.Task
import TemplateMap.Tool.Trace

/-! Worlds: a file system and the processes that work on it, with their descriptors, the pipes
between them and the signals that they send.  Each process has a clock of its own, and the one whose
clock is behind all others goes on, so that what they do is done in the order of time. -/

namespace TemplateMap.System

open Tool (Moment Status Trace)

/-- A pipe with the bytes that have not been read: those that come first, and the pieces after them,
the last one first. -/
structure Pipe where
  number : Nat
  front : Text
  back : List Text
  held : Nat

/-- What a process waits for. -/
inductive Cause
  | pipe (number : Nat)
  /-- The end of a child of the process. -/
  | childOf (number : Nat)
  | never
  deriving DecidableEq

/-- Where a process is in its task. -/
inductive State
  | ready (task : Task)
  /-- Goes on with `again` when the cause may have come, and with `interrupted` when a signal is
  noted. -/
  | blocked (cause : Cause) (interrupted : Option Task) (again : Task)
  /-- A signal of another process is ending it. -/
  | ending (status : Status)
  | ended (status : Status)

/-- A process. -/
structure Process where
  number : Nat
  parent : Nat
  clock : Moment
  state : State
  /-- The stream that each descriptor stands for. -/
  descriptors : List (Nat × Nat)
  responses : List (Nat × Response)
  /-- The signals that have been noted, the first one first. -/
  noted : List Nat
  stopped : Bool
  /-- The bounds that have been changed. -/
  bounds : List (Resource × Bounds)
  /-- The nanoseconds that the process has computed. -/
  work : Nat

/-- A world in the middle of a run. -/
structure World where
  files : FileSystem
  streams : Array Stream
  pipes : List Pipe
  processes : List Process
  /-- The number of the process that was started last. -/
  latest : Nat
  /-- What has been written to the output of the run, the last first. -/
  writes : List (Moment × Text)
  written : Nat
  /-- Once more than this is written, nothing more matters. -/
  limit : Nat
  /-- When all have let go of the output. -/
  closed : Option Moment
  /-- How the first process ended. -/
  ended : Option (Moment × Status)
  /-- How many calls have been made since something was written to the output. -/
  idle : Nat

/-- The number of the first process. -/
def firstProcess : Nat := 1000

/-- The number of the process that started the first one. -/
def outerProcess : Nat := 999

/-- The nanoseconds that a call takes. -/
def callTime : Moment := 1000

/-- The nanoseconds that the start of a child takes its parent. -/
def forkTime : Moment := 100000

/-- The nanoseconds after which a child begins. -/
def childTime : Moment := 300000

/-- The nanoseconds that it takes to become another program. -/
def programTime : Moment := 400000

/-- The nanoseconds that it takes to end another process. -/
def endTime : Moment := 200000

/-- How many calls without output are quick. -/
def quickCalls : Nat := 3000000

/-- The nanoseconds that a call takes after many others without output. -/
def slowTime : Moment := 100000

/-- How many bytes are moved in the time of a call. -/
def bytesPerCall : Nat := 64

/-- How many bytes a pipe takes before its writers wait. -/
def pipeRoom : Nat := 65536

namespace Process

/-- What a process does about a signal. -/
def response (p : Process) (signal : Nat) : Response :=
  if signal = 9 || signal = 19 then .standard else (p.responses.lookup signal).getD .standard

/-- The bounds of a process on a resource. -/
def boundsOn (p : Process) (resource : Resource) : Bounds :=
  (p.bounds.lookup resource).getD resource.standard

/-- Whether a process has not ended. -/
def isAlive (p : Process) : Bool :=
  match p.state with
  | .ended _ => false
  | _ => true

/-- Whether a process can go on. -/
def isReady (p : Process) : Bool :=
  match p.state with
  | .ready _ => !p.stopped
  | .ending _ => true
  | _ => false

/-- The process with a descriptor that stands for another stream. -/
def setDescriptor (p : Process) (descriptor stream : Nat) : Process :=
  { p with descriptors := (descriptor, stream) :: p.descriptors.filter (·.1 ≠ descriptor) }

/-- The process without a descriptor. -/
def dropDescriptor (p : Process) (descriptor : Nat) : Process :=
  { p with descriptors := p.descriptors.filter (·.1 ≠ descriptor) }

/-- The process woken up at a moment to go on with a task. -/
def wake (p : Process) (task : Task) (now : Moment) : Process :=
  { p with state := .ready task, clock := max p.clock now }

end Process

namespace World

/-- The process with a number. -/
def process? (w : World) (number : Nat) : Option Process :=
  w.processes.find? fun p => p.number = number

/-- The world with a process in another state. -/
def update (w : World) (p : Process) : World :=
  { w with processes := w.processes.map fun other => if other.number = p.number then p else other }

/-- The stream that a descriptor of a process stands for. -/
def stream? (w : World) (p : Process) (descriptor : Nat) : Option (Nat × Stream) := do
  let id ← p.descriptors.lookup descriptor
  return (id, ← w.streams[id]?)

/-- Whether some process that has not ended holds a stream of a kind. -/
def holds (w : World) (kind : Stream → Bool) : Bool :=
  w.processes.any fun p => p.isAlive &&
    p.descriptors.any fun (_, id) => (w.streams[id]?).any kind

/-- Whether a stream is the output of the run. -/
def isOutput : Stream → Bool
  | .output => true
  | _ => false

/-- Whether some process can write to a pipe. -/
def hasWriter (w : World) (pipe : Nat) : Bool :=
  w.holds fun
    | .writer n => n = pipe
    | _ => false

/-- Whether some process can read from a pipe. -/
def hasReader (w : World) (pipe : Nat) : Bool :=
  w.holds fun
    | .reader n => n = pipe
    | _ => false

/-- The world with all processes woken up that wait for a cause. -/
def wake (w : World) (cause : Cause) (now : Moment) : World :=
  let awake (p : Process) : Process :=
    match p.state with
    | .blocked c _ again => if c = cause then p.wake again now else p
    | _ => p
  { w with processes := w.processes.map awake }

/-- The world after a process has let go of some streams. -/
def release (w : World) (streams : List Nat) (now : Moment) : World :=
  let freed (w : World) (id : Nat) : World :=
    match w.streams[id]? with
    | some (.reader n) | some (.writer n) =>
      let w := w.wake (.pipe n) now
      if w.hasReader n || w.hasWriter n then w
      else { w with pipes := w.pipes.filter fun (pipe : Pipe) => pipe.number ≠ n }
    | some .output =>
      if w.closed.isNone && !w.holds isOutput then { w with closed := some now } else w
    | _ => w
  streams.foldl freed w

/-- The world without the processes that have ended and whose parent has ended too. -/
def bury (w : World) : World :=
  let isAwaited (p : Process) : Bool :=
    p.isAlive || (w.process? p.parent).any Process.isAlive
  { w with processes := w.processes.filter isAwaited }

/-- The signals that change nothing. -/
def harmlessSignals : List Nat := [17, 18, 23, 28]

/-- The signals that stop a process. -/
def stoppingSignals : List Nat := [19, 20, 21, 22]

/-- The world after a process has noted a signal. -/
def note (w : World) (p : Process) (signal : Nat) (now : Moment) : World :=
  let noted := if p.noted.contains signal then p.noted else p.noted ++ [signal]
  match p.state with
  | .blocked _ (some task) _ => w.update { p.wake task now with noted }
  | _ => w.update { p with noted }

/-- The signal that tells of the end of a child. -/
def childSignal : Nat := 17

/-- The world after a process has been told of the end of a child. -/
def tellParent (w : World) (parent : Nat) (now : Moment) : World :=
  match w.process? parent with
  | some p =>
    if p.isAlive && p.response childSignal = .noted then w.note p childSignal now else w
  | none => w

/-- The world after the end of a process. -/
def terminate (w : World) (p : Process) (status : Status) (now : Moment) : World :=
  let streams := p.descriptors.map Prod.snd
  let w := w.update { p with state := .ended status, descriptors := [], clock := now }
  let w := if p.number = firstProcess then { w with ended := some (now, status) } else w
  ((w.release streams now).wake (.childOf p.parent) now).bury.tellParent p.parent now

/-- Whether signals still matter to a process. -/
def isListening (p : Process) : Bool :=
  match p.state with
  | .ready _ => true
  | .blocked .. => true
  | _ => false

/-- The world after a process has got a signal from one with the number `sender`. -/
def deliver (w : World) (sender number signal : Nat) (now : Moment) : World :=
  match w.process? number with
  | none => w
  | some p =>
    if !isListening p || signal = 0 then w
    else
      let w := if signal = 18 then
        let clock := if p.stopped then max p.clock now else p.clock
        w.update { p with stopped := false, clock }
      else w
      match p.response signal with
      | .ignored => w
      | .noted => w.note p signal now
      | .standard =>
        if harmlessSignals.contains signal then w
        else if stoppingSignals.contains signal then w.update { p with stopped := true }
        else if sender = number then w.terminate p (.signal signal) now
        else
          w.update { p with state := .ending (.signal signal), clock := now + endTime }

/-- The world with a new stream, and the place of that. -/
def addStream (w : World) (s : Stream) : World × Nat :=
  ({ w with streams := w.streams.push s }, w.streams.size)

/-- The world after a process has gone on to a task. -/
def goOn (w : World) (p : Process) (task : Task) (span : Moment) : World :=
  w.update { p with state := .ready task, clock := p.clock + span }

/-- The nanoseconds in a second. -/
def second : Nat := 1000000000

/-- The signal for a process that computes too long. -/
def timeSignal : Nat := 24

/-- The world after a process has computed so long that it may not go on. -/
def checkTime (w : World) (p : Process) (span : Moment) : World :=
  let exceeds (work : Nat) (bound : Option Nat) : Bool :=
    bound.any fun seconds => max 1 seconds * second ≤ work
  let bounds := p.boundsOn .time
  if exceeds (p.work + span) bounds.hard then w.deliver p.number p.number 9 p.clock
  else if exceeds (p.work + span) bounds.soft && (p.work + span) / second ≠ p.work / second then
    w.deliver p.number p.number timeSignal p.clock
  else w

/-- The world after a process has got a reply and has moved some bytes. -/
def replyMoving (w : World) (p : Process) (size : Nat) (task : Task) : World :=
  let count := 1 + size / bytesPerCall
  let span := count * if w.idle < quickCalls then callTime else slowTime
  let w := { w with idle := w.idle + count }
  if p.bounds.isEmpty then w.goOn p task span
  else (w.goOn { p with work := p.work + span } task span).checkTime p span

/-- The world after a process has got a reply. -/
def reply (w : World) (p : Process) (task : Task) : World := w.replyMoving p 0 task

/-- The world after a process has been made to wait. -/
def block (w : World) (p : Process) (cause : Cause) (interrupted : Option Task) (again : Task) :
    World :=
  w.update { p with state := .blocked cause interrupted again }

/-- The number that stands for the output of the run among those of pipes. -/
def outputPipe : Nat := 0

/-- The place of a pipe, to which no path leads. -/
def pipePlace (number : Nat) : Place := [FileSystem.root, FileSystem.root, Text.ofNat number]

/-- The number of the pipe that a stream reads from or writes to. -/
def pipe? : Stream → Option Nat
  | .output => some outputPipe
  | .reader n | .writer n => some n
  | _ => none

/-- The place of what a stream reads from or writes to. -/
def placeOf : Stream → Place
  | .output => pipePlace outputPipe
  | .reader n | .writer n => pipePlace n
  | .device kind => ((FileSystem.devices.find? fun d => d.2 = kind).map Prod.fst).getD []
  | .directory place => place
  | .file place _ _ => place

/-- The files as a process sees them: what its descriptors stand for is among them. -/
def filesOf (w : World) (p : Process) : FileSystem :=
  let held := p.descriptors.filterMap fun (descriptor, id) =>
    (w.streams[id]?).map fun s => (descriptor, s)
  let pipes := (held.filterMap fun (_, s) => pipe? s).eraseDups
  { w.files with
    entries := pipes.map (fun n => ⟨pipePlace n, .pipe n, .moment 0⟩) ++ w.files.entries
    links := held.map fun (descriptor, s) => (FileSystem.descriptorPlace descriptor, placeOf s) }

/-- The stream that an opened path becomes, and the world then. -/
def opened (w : World) (p : Process) (directory : Place) (path : Path) (how : Opening) :
    Except IoError (Stream × World) := do
  let fs := w.filesOf p
  let place ← fs.resolveFrom directory path
  let file := Stream.file place 0 how
  match fs.node? place with
  | some .directory =>
    if how.writes then .error .isADirectory else .ok (.directory place, w)
  | some (.device .terminal) => .error .noDevice
  | some (.device kind) => .ok (.device kind, w)
  | some (.pipe n) =>
    .ok (if !how.writes then .reader n else if n = outputPipe then .output else .writer n, w)
  | some .program => .error .permissionDenied
  | some (.file _) =>
    if how.fresh then .error .fileExists
    else if how.empties then .ok (file, { w with files := w.files.update place .empty })
    else .ok (file, w)
  | none =>
    if how.creates && place.dropLast ≠ FileSystem.descriptorDirectory then
      .ok (file, { w with files := w.files.update place .empty })
    else .error .notFound

/-- The bytes of a file. -/
def contentAt (w : World) (place : Place) : ByteArray :=
  match w.files.node? place with
  | some (.file content) => content
  | _ => .empty

/-- The signal for a process that makes a file too large. -/
def sizeSignal : Nat := 25

/-- The bytes with others written over them from a position on; a gap before that is zeros. -/
def overwritten (content : ByteArray) (position : Nat) (bytes : ByteArray) : ByteArray :=
  let gap : ByteArray := ⟨Array.replicate (position - content.size) 0⟩
  content.extract 0 position ++ gap ++ bytes ++
    content.extract (position + bytes.size) content.size

/-- The world after a process has read from a stream. -/
def read (w : World) (p : Process) (descriptor count : Nat) (next : Reply → Task) : World :=
  let reply (w : World) (r : Reply) : World :=
    let size := match r with
      | .text t => t.length
      | _ => 0
    w.replyMoving p size (next r)
  match w.stream? p descriptor with
  | none | some (_, .output) | some (_, .writer _) => reply w (.failed .badDescriptor)
  | some (_, .directory _) => reply w (.failed .isADirectory)
  | some (_, .device .null) => reply w (.text [])
  | some (_, .device _) => reply w (.text (List.replicate count '\x00'))
  | some (id, .file place position how) =>
    if !how.reads then reply w (.failed .badDescriptor)
    else
      let bytes := ((w.contentAt place).extract position (position + count)).data.toList
      let moved := Stream.file place (position + bytes.length) how
      let w := { w with streams := w.streams.setIfInBounds id moved }
      reply w (.text (Latin1.decode bytes))
  | some (_, .reader n) =>
    match w.pipes.find? fun pipe => pipe.number = n with
    | none => w.block p .never (some (next .interrupted)) (next (.text []))
    | some pipe =>
      if pipe.held = 0 then
        if w.hasWriter n then
          w.block p (.pipe n) (some (next .interrupted)) (.call (.read descriptor count) next)
        else reply w (.text [])
      else
        let front := if pipe.front.isEmpty then pipe.back.reverse.flatten else pipe.front
        let back := if pipe.front.isEmpty then [] else pipe.back
        let text := front.take count
        let left := { pipe with front := front.drop count, back, held := pipe.held - text.length }
        let w := { w with pipes := w.pipes.map fun (q : Pipe) => if q.number = n then left else q }
        let w :=
          if pipeRoom ≤ pipe.held && left.held < pipeRoom then w.wake (.pipe n) p.clock else w
        reply w (.text text)

/-- The world after a process has written to a stream. -/
def write (w : World) (p : Process) (descriptor : Nat) (t : Text) (next : Reply → Task) : World :=
  let reply (w : World) (r : Reply) : World := w.replyMoving p t.length (next r)
  match w.stream? p descriptor with
  | none | some (_, .reader _) | some (_, .directory _) => reply w (.failed .badDescriptor)
  | some (_, .device .full) => reply w (if t.isEmpty then .done else .failed .noSpace)
  | some (_, .device _) => reply w .done
  | some (_, .output) =>
    if t.isEmpty then reply w .done
    else
      reply { w with
        writes := (p.clock, t) :: w.writes
        written := w.written + t.length
        idle := 0 } .done
  | some (id, .file place position how) =>
    if !how.writes then reply w (.failed .badDescriptor)
    else if t.isEmpty then reply w .done
    else
      let before := w.contentAt place
      let start := if how.appends then before.size else position
      let room := match (p.boundsOn .file).soft with
        | some bound => bound - start
        | none => t.length
      let bytes : ByteArray := ⟨(Latin1.encode (t.take room)).toArray⟩
      let moved := Stream.file place (start + bytes.size) how
      let files :=
        if bytes.isEmpty then w.files
        else w.files.update place (overwritten before start bytes)
      let w := { w with files, streams := w.streams.setIfInBounds id moved }
      if room < t.length then
        (reply w (.failed .fileTooLarge)).deliver p.number p.number sizeSignal p.clock
      else reply w .done
  | some (_, .writer n) =>
    if t.isEmpty then reply w .done
    else if !w.hasReader n then
      let w := reply w (.failed .brokenPipe)
      if p.response 13 = .standard then w.deliver p.number p.number 13 p.clock else w
    else
      match w.pipes.find? fun pipe => pipe.number = n with
      | none => reply w .done
      | some pipe =>
        if pipeRoom ≤ pipe.held then
          w.block p (.pipe n) (some (next .interrupted)) (.call (.write descriptor t) next)
        else
          let filled := { pipe with back := t :: pipe.back, held := pipe.held + t.length }
          let pipes := w.pipes.map fun (q : Pipe) => if q.number = n then filled else q
          let w := { w with pipes }
          reply (w.wake (.pipe n) p.clock) .done

/-- The world after a process has waited for the end of a child, or has begun to. -/
def wait (w : World) (p : Process) (blocking interruptible : Bool) (next : Reply → Task) : World :=
  let children := w.processes.filter fun (q : Process) => q.parent = p.number
  let ended := children.findSome? fun (q : Process) =>
    match q.state with
    | .ended status => some (q.number, status)
    | _ => none
  match ended with
  | some (number, status) =>
    let w := { w with processes := w.processes.filter fun (q : Process) => q.number ≠ number }
    w.reply p (next (.ended number status))
  | none =>
    if children.isEmpty then w.reply p (next (.failed .noChild))
    else if !blocking then w.reply p (next .done)
    else if interruptible && !p.noted.isEmpty then w.reply p (next .interrupted)
    else
      w.block p (.childOf p.number) (if interruptible then some (next .interrupted) else none)
        (.call (.wait blocking interruptible) next)

/-- The world after a call of a process. -/
def serve (w : World) (p : Process) (c : SystemCall) (next : Reply → Task) : World :=
  let reply (w : World) (p : Process) (r : Reply) : World := w.reply p (next r)
  match c with
  | .step => reply w { p with noted := [] } (.signals p.noted)
  | .files => reply w p (.files (w.filesOf p))
  | .openFile descriptor directory path how =>
    match w.opened p directory path how with
    | .error e => reply w p (.failed e)
    | .ok (s, w) =>
      let (w, id) := w.addStream s
      let old := (p.descriptors.lookup descriptor).toList
      (reply w (p.setDescriptor descriptor id) .done).release old p.clock
  | .makePipe reader writer =>
    let n := w.streams.size
    let w := { w with pipes := ⟨n, [], [], 0⟩ :: w.pipes }
    let (w, r) := w.addStream (.reader n)
    let (w, s) := w.addStream (.writer n)
    reply w ((p.setDescriptor reader r).setDescriptor writer s) .done
  | .copy source target =>
    match p.descriptors.lookup source with
    | none => reply w p (.failed .badDescriptor)
    | some id =>
      let old := (p.descriptors.lookup target).toList
      (reply w (p.setDescriptor target id) .done).release old p.clock
  | .close descriptor =>
    let old := (p.descriptors.lookup descriptor).toList
    (reply w (p.dropDescriptor descriptor) .done).release old p.clock
  | .stream descriptor =>
    reply w p (match w.stream? p descriptor with
      | some (_, s) => .stream s
      | none => .failed .badDescriptor)
  | .read descriptor count => w.read p descriptor count next
  | .write descriptor t => w.write p descriptor t next
  | .sleep (some span) => w.goOn p (next .done) (span + callTime)
  | .sleep none => w.block p .never none (next .done)
  | .wait blocking interruptible => w.wait p blocking interruptible next
  | .send number signal =>
    if (w.process? number).isNone then reply w p (.failed .noProcess)
    else (reply w p .done).deliver p.number number signal p.clock
  | .respond signal response =>
    let responses := (signal, response) :: p.responses.filter (·.1 ≠ signal)
    reply w { p with responses } .done
  | .ignored =>
    let ignored := p.responses.filter fun (_, response) => response = .ignored
    reply w p (.signals (ignored.map Prod.fst))
  | .self => reply w p (.number p.number)
  | .parent => reply w p (.number p.parent)
  | .bounds resource => reply w p (.bounds (p.boundsOn resource))
  | .setBounds resource bounds =>
    match (p.boundsOn resource).changed bounds with
    | .ok bounds =>
      let others := p.bounds.filter (·.1 ≠ resource)
      reply w { p with bounds := (resource, bounds) :: others } .done
    | .error e => reply w p (.failed e)
  | .become =>
    let (kept, dropped) := p.descriptors.partition fun d => d.1 < 10
    let p' := { p with
      descriptors := kept
      responses := p.responses.filter (·.2 = .ignored)
      noted := [] }
    (w.goOn p' (next .done) programTime).release (dropped.map Prod.snd) p.clock

/-- The world after a process has gone on by one call. -/
def advance (w : World) (p : Process) : World :=
  match p.state with
  | .ready (.exit status) => w.terminate p (.code status) p.clock
  | .ending status => w.terminate p status p.clock
  | .ready (.call c next) => w.serve p c next
  | .ready (.fork task next) =>
    let number := w.latest + 1
    let child : Process :=
      { p with
        number, parent := p.number, clock := p.clock + childTime, state := .ready task, noted := []
        work := 0 }
    let w := { w with processes := w.processes ++ [child], latest := number }
    w.goOn p (next number) forkTime
  | _ => w

/-- The process that goes on next: of those that can, the one whose clock is behind all others. -/
def next? (w : World) : Option Process :=
  w.processes.foldl (fun found p =>
    if !p.isReady then found
    else
      match found with
      | none => some p
      | some q => if p.clock < q.clock then some p else found) none

/-- Whether nothing that still happens matters. -/
def isSettled (w : World) : Bool :=
  w.limit < w.written || (w.closed.isSome && w.ended.isSome)

/-- The world after all that happens up to a moment; `fuel` bounds the number of calls. -/
def run (horizon : Moment) : (fuel : Nat) → World → World
  | 0, w => w
  | fuel + 1, w =>
    if w.isSettled then w
    else
      match w.next? with
      | none => w
      | some p => if horizon < p.clock then w else run horizon fuel (w.advance p)

/-- A world with one process, which reads nothing, whose output is the output of the run and whose
messages are lost. -/
def start (files : FileSystem) (limit : Nat) (task : Task) : World :=
  { files, limit
    streams := #[.device .null, .output]
    pipes := []
    processes :=
      [{ number := firstProcess, parent := outerProcess, clock := 0, state := .ready task
         descriptors := [(0, 0), (1, 1), (2, 0)], responses := [], noted := [], stopped := false
         bounds := [], work := 0 }]
    latest := firstProcess
    writes := [], written := 0, closed := none, ended := none, idle := 0 }

/-- What is to be seen of a run. -/
def trace (w : World) : Trace :=
  { writes := w.writes.reverse.map fun (moment, t) => (moment, Latin1.encode t)
    closed := w.closed
    ended := w.ended }

end World

end TemplateMap.System
