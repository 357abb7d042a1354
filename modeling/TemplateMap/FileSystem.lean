import TemplateMap.Path

/-! File systems as values: the files and directories that are known, each with its contents and the
time of its last change, and the paths that lead to them from a working directory. -/

namespace TemplateMap

/-- The time of a change: one that was set, in seconds and nanoseconds, or the moment of a change
that was not dated, in the order of those moments. -/
inductive Timestamp
  | dated (seconds : Int) (nanoseconds : Nat)
  | moment (count : Nat)
  deriving DecidableEq

namespace Timestamp

/-- The time that lies some nanoseconds after a second, which may be more than there are in one. -/
def after (seconds : Int) (nanoseconds : Nat) : Timestamp :=
  .dated (seconds + (nanoseconds / 1000000000 : Nat)) (nanoseconds % 1000000000)

/-- Whether a time comes before another one; a change that was not dated comes after all that
were. -/
def isBefore : Timestamp → Timestamp → Bool
  | .dated s n, .dated s' n' => s < s' || (s = s' && n < n')
  | .dated .., .moment _ => true
  | .moment _, .dated .. => false
  | .moment c, .moment c' => c < c'

end Timestamp

/-- Why something could not be read, written or started. -/
inductive IoError
  | notPermitted
  | notFound
  | noProcess
  | noDevice
  | argumentsTooLong
  | badDescriptor
  | noChild
  | permissionDenied
  | fileExists
  | notADirectory
  | isADirectory
  | invalidArgument
  | fileTooLarge
  | noSpace
  | brokenPipe
  | nameTooLong
  | nulInName
  | nulInArgument
  | notUtf8
  deriving DecidableEq, Repr

namespace IoError

/-- What went wrong, in words. -/
def reason : IoError → String
  | .notPermitted => "Operation not permitted"
  | .notFound => "No such file or directory"
  | .noProcess => "No such process"
  | .noDevice => "No such device or address"
  | .argumentsTooLong => "Argument list too long"
  | .badDescriptor => "Bad file descriptor"
  | .noChild => "No child processes"
  | .permissionDenied => "Permission denied"
  | .fileExists => "File exists"
  | .notADirectory => "Not a directory"
  | .isADirectory => "Is a directory"
  | .invalidArgument => "Invalid argument"
  | .fileTooLarge => "File too large"
  | .noSpace => "No space left on device"
  | .brokenPipe => "Broken pipe"
  | .nameTooLong => "File name too long"
  | .nulInName => "file name contained an unexpected NUL byte"
  | .nulInArgument => "nul byte found in provided data"
  | .notUtf8 => "stream did not contain valid UTF-8"

/-- The number that the system gives the failure, if it comes from the system. -/
def number? : IoError → Option Nat
  | .notPermitted => some 1
  | .notFound => some 2
  | .noProcess => some 3
  | .noDevice => some 6
  | .argumentsTooLong => some 7
  | .badDescriptor => some 9
  | .noChild => some 10
  | .permissionDenied => some 13
  | .fileExists => some 17
  | .notADirectory => some 20
  | .isADirectory => some 21
  | .invalidArgument => some 22
  | .fileTooLarge => some 27
  | .noSpace => some 28
  | .brokenPipe => some 32
  | .nameTooLong => some 36
  | .nulInName | .nulInArgument | .notUtf8 => none

/-- The message of a failed operation: the reason, and the number of the failure if it has one. -/
def message (e : IoError) : String :=
  match e.number? with
  | some n => e.reason ++ " (os error " ++ toString n ++ ")"
  | none => e.reason

end IoError

/-- A file that is no place for contents: one that is empty and takes all, one that is zeros without
end, one that is full, one that is noise, and the terminal, which there is not. -/
inductive Device
  | null
  | zero
  | full
  | noise
  | terminal
  deriving DecidableEq

/-- A file with its bytes, a directory, a device, a pipe with its number, or a program. -/
inductive Node
  | file (content : ByteArray)
  | directory
  | device (kind : Device)
  | pipe (number : Nat)
  | program

/-- A place in a file system: the names that lead to it from the working directory.  Two dots only
stand in front and lead up; a slash only stands first and leads to the root. -/
abbrev Place := List Text

/-- Something that a file system holds at a place. -/
structure FileEntry where
  place : Place
  node : Node
  changed : Timestamp

/-- A file system: its entries, the places that lead on to other ones besides those that do so in
every system, and how many changes have not been dated. -/
structure FileSystem where
  entries : List FileEntry
  links : List (Place × Place)
  moments : Nat

namespace FileSystem

/-- The name that leads up. -/
def up : Text := ['.', '.']

/-- The name that leads to the root. -/
def root : Text := ['/']

/-- The place that names lead to from the root. -/
def fromRoot (names : List String) : Place := root :: names.map String.toList

/-- The names of the programs that the system has. -/
def programNames : List String := ["sh", "cat", "echo", "printf", "true", "false", "sleep"]

/-- The directory in which the programs are. -/
def programDirectory : Place := fromRoot ["usr", "bin"]

/-- The directory of what the descriptors of a process stand for. -/
def descriptorDirectory : Place := fromRoot ["proc", "self", "fd"]

/-- The place of what a descriptor of a process stands for. -/
def descriptorPlace (descriptor : Nat) : Place := descriptorDirectory ++ [Text.ofNat descriptor]

/-- The place of the device that takes all. -/
def nullPlace : Place := fromRoot ["dev", "null"]

/-- The devices of every system. -/
def devices : List (Place × Device) :=
  [(nullPlace, .null), (fromRoot ["dev", "zero"], .zero), (fromRoot ["dev", "full"], .full),
    (fromRoot ["dev", "random"], .noise), (fromRoot ["dev", "urandom"], .noise),
    (fromRoot ["dev", "tty"], .terminal)]

/-- The directories that every system has. -/
def directories : List Place :=
  [[], ["boot"], ["dev"], ["dev", "pts"], ["dev", "shm"], ["etc"], ["home"], ["media"], ["mnt"],
    ["opt"], ["proc"], ["proc", "self"], ["proc", "self", "fd"], ["root"], ["run"], ["srv"],
    ["sys"], ["tmp"], ["usr"], ["usr", "bin"], ["usr", "lib"], ["usr", "lib64"],
    ["usr", "local"], ["usr", "local", "bin"], ["usr", "local", "sbin"], ["usr", "sbin"],
    ["usr", "share"], ["var"], ["var", "tmp"]].map fromRoot

/-- The directory in which all may make files and only their own ones away. -/
def stickyPlace : Place := fromRoot ["tmp"]

/-- The places of every system that lead on to other ones. -/
def systemLinks : List (Place × Place) :=
  [(fromRoot ["bin"], programDirectory), (fromRoot ["sbin"], fromRoot ["usr", "sbin"]),
    (fromRoot ["lib"], fromRoot ["usr", "lib"]), (fromRoot ["lib64"], fromRoot ["usr", "lib64"]),
    (fromRoot ["dev", "fd"], descriptorDirectory),
    (fromRoot ["dev", "stdin"], descriptorPlace 0),
    (fromRoot ["dev", "stdout"], descriptorPlace 1),
    (fromRoot ["dev", "stderr"], descriptorPlace 2)]

/-- An empty working directory, seen by a process that reads nothing. -/
def empty : FileSystem :=
  ⟨[⟨[], .directory, .moment 0⟩], [(descriptorPlace 0, nullPlace)], 1⟩

/-- What every system has, with the places. -/
def system : List (Place × Node) :=
  directories.map (fun place => (place, .directory)) ++
    devices.map (fun (place, kind) => (place, .device kind)) ++
    programNames.map fun name => (programDirectory ++ [name.toList], .program)

/-- The absolute place of the working directory. -/
def workingPlace : Place := fromRoot ["tmp", "work"]

/-- What every system has at a place. -/
def given? (place : Place) : Option Node :=
  if place.all (· = up) then some .directory
  else if place.head? = some root then system.lookup place
  else none

/-- The entry at a place. -/
def entry? (fs : FileSystem) (place : Place) : Option FileEntry :=
  fs.entries.find? fun e => e.place = place

/-- The node at a place. -/
def node? (fs : FileSystem) (place : Place) : Option Node :=
  match fs.entry? place with
  | some e => some e.node
  | none => given? place

/-- Where a place leads on to, if it does. -/
def link? (fs : FileSystem) (place : Place) : Option Place :=
  if place.head? = some root then (fs.links.lookup place).or (systemLinks.lookup place) else none

/-- How many times a place may lead on. -/
def maxLinks : Nat := 40

/-- The place that a place leads on to in the end; `fuel` bounds the number of times. -/
def followed (fs : FileSystem) : (fuel : Nat) → Place → Place
  | 0, place => place
  | fuel + 1, place =>
    match fs.link? place with
    | some next => followed fs fuel next
    | none => place

/-- The place one step up. -/
def parent (place : Place) : Place :=
  if place = [root] then place
  else if place.all (· = up) then place ++ [up]
  else place.dropLast

/-- The longest name, in bytes. -/
def maxName : Nat := 255

/-- The length, in bytes, that no path reaches. -/
def maxPath : Nat := 4096

/-- The place that pieces of a path lead to from another place.  All but the last name must exist,
and whatever is left by a further piece must be a directory. -/
def walk (fs : FileSystem) (here : Place) : List Text → Except IoError Place
  | [] => .ok here
  | piece :: rest =>
    match fs.node? here with
    | none => .error .notFound
    | some .directory =>
      if piece = [] ∨ piece = ['.'] then walk fs here rest
      else if piece = up then walk fs (parent here) rest
      else if maxName < (Utf8.encode piece).length then .error .nameTooLong
      else
        let next := fs.followed maxLinks (here ++ [piece])
        walk fs (if next = workingPlace then [] else next) rest
    | some _ => .error .notADirectory

/-- The place that a path leads to from a directory. -/
def resolveFrom (fs : FileSystem) (here : Place) (path : Path) : Except IoError Place :=
  if path.contains '\x00' then .error .nulInName
  else if maxPath ≤ (Utf8.encode path).length then .error .nameTooLong
  else
    match path with
    | [] => .error .notFound
    | '/' :: rest => fs.walk [root] (Path.pieces rest)
    | path => fs.walk here (Path.pieces path)

/-- The place that a path leads to from the working directory. -/
def resolve (fs : FileSystem) (path : Path) : Except IoError Place := fs.resolveFrom [] path

/-- What a path leads to from a directory, if there is something. -/
def lookFrom? (fs : FileSystem) (here : Place) (path : Path) : Option Node :=
  match fs.resolveFrom here path with
  | .ok place => fs.node? place
  | .error _ => none

/-- Whether the last name of a path is that of a place that leads on. -/
def endsInLink (fs : FileSystem) (here : Place) (path : Path) : Bool :=
  match (Path.pieces path).reverse with
  | [] => false
  | last :: before =>
    let directory := (before.reverse.map fun piece => piece ++ ['/']).flatten
    match fs.resolveFrom here (if directory.isEmpty then ['.'] else directory) with
    | .ok place => (fs.link? (place ++ [last])).isSome
    | .error _ => false

/-- The least number that no name in a list is. -/
def freeNumber (names : List Text) : Nat :=
  ((List.range (names.length + 1)).find? fun n => !names.contains (Text.ofNat n)).getD 0

/-- The names of what is in the directory at a place, the way here and the way up among them.  The
directory is read through a descriptor, which is one more among those. -/
def namesIn (fs : FileSystem) (place : Place) : List Text :=
  let below (p : Place) : Option Text :=
    if !p.isEmpty && p.dropLast = place && p ≠ [root] then p.getLast? else none
  let found := (fs.entries.filterMap fun e => below e.place) ++
    (fs.links.filterMap fun (p, _) => below p) ++
    if place.head? = some root then
      (system.filterMap fun (p, _) => below p) ++ systemLinks.filterMap fun (p, _) => below p
    else []
  let found := if place = descriptorDirectory then Text.ofNat (freeNumber found) :: found else found
  ['.'] :: up :: found

/-- The bytes of the file at a path; all but plain files are taken as empty. -/
def read (fs : FileSystem) (path : Path) : Except IoError Bytes := do
  match fs.node? (← fs.resolve path) with
  | some (.file content) => .ok content.data.toList
  | some .directory => .error .isADirectory
  | some (.device .terminal) => .error .noDevice
  | some _ => .ok []
  | none => .error .notFound

/-- When what every system has was last changed. -/
def systemTime : Timestamp := .dated 1700000000 0

/-- When what is at a place was last changed. -/
def changedAt? (fs : FileSystem) (place : Place) : Option Timestamp :=
  match fs.entry? place with
  | some e => some e.changed
  | none => (given? place).map fun _ => systemTime

/-- When the file or directory at a path was last changed. -/
def changed? (fs : FileSystem) (path : Path) : Option Timestamp :=
  match fs.resolve path with
  | .error _ => none
  | .ok place => fs.changedAt? place

/-- The file system with an entry put in place of any other there. -/
def put (fs : FileSystem) (e : FileEntry) : FileSystem :=
  { fs with entries := e :: fs.entries.filter fun other => other.place ≠ e.place }

/-- The file system after a change that was not dated to the directory at a place. -/
def changeDirectory (fs : FileSystem) (place : Place) : FileSystem :=
  let fs := { fs with moments := fs.moments + 1 }
  match fs.entry? place with
  | some e => fs.put { e with changed := .moment fs.moments }
  | none => fs

/-- The file system with a directory at a place, if nothing was there. -/
def addDirectory (fs : FileSystem) (place : Place) : FileSystem :=
  if (fs.node? place).isSome then fs
  else
    let fs := fs.changeDirectory place.dropLast
    fs.put ⟨place, .directory, .moment fs.moments⟩

/-- The place that one step of a path leads to where everything is a directory. -/
def step (place : Place) : Path.Component → Place
  | .root => [root]
  | .here => place
  | .up => parent place
  | .name n => place ++ [n]

/-- The places that steps of a path lead to, one after the other, where everything is a directory.
-/
def way (place : Place) : List Path.Component → List Place
  | [] => []
  | c :: rest => step place c :: way (step place c) rest

/-- The places that a path leads through where everything is a directory. -/
def placesOf (path : Path) : List Place := way [] (Path.components path)

/-- The place that a path leads to where everything on the way is a directory. -/
def placeOf (path : Path) : Place := (placesOf path).getLastD []

/-- The file system with a file written at a place in a directory. -/
def writeAt (fs : FileSystem) (place : Place) (content : ByteArray) (changed : Timestamp) :
    FileSystem :=
  let fs := if (fs.entry? place).isSome then fs else fs.changeDirectory place.dropLast
  fs.put ⟨place, .file content, changed⟩

/-- The file system after a change that was not dated to the content of the file at a place. -/
def update (fs : FileSystem) (place : Place) (content : ByteArray) : FileSystem :=
  { fs with moments := fs.moments + 1 }.writeAt place content (.moment fs.moments)

/-- The file system with a file written at a path; directories that are missing on the way are made,
those that the way leaves again among them. -/
def write (fs : FileSystem) (path : Path) (content : Bytes) (changed : Timestamp) : FileSystem :=
  ((placesOf path).dropLast.foldl addDirectory fs).writeAt (placeOf path) ⟨content.toArray⟩ changed

/-- The file system with the time of the entry at a path set. -/
def touch (fs : FileSystem) (path : Path) (changed : Timestamp) : FileSystem :=
  match fs.entry? (placeOf path) with
  | some e => fs.put { e with changed := changed }
  | none => fs

/-- The file system without the entry at a path and all below it. -/
def remove (fs : FileSystem) (path : Path) : FileSystem :=
  match fs.resolve path with
  | .error _ => fs
  | .ok place =>
    let fs := { fs with entries := fs.entries.filter fun e => !place.isPrefixOf e.place }
    fs.changeDirectory place.dropLast

/-- The file system with a directory at a path, dated if a time is given. -/
def makeDirectory (fs : FileSystem) (path : Path) (changed : Option Timestamp) : FileSystem :=
  let fs := (placesOf path).foldl addDirectory fs
  match changed with
  | some time => fs.touch path time
  | none => fs

end FileSystem

end TemplateMap
