import TemplateMap.Path

/-! Command lines: the arguments of the program read into an invocation.  A value that follows its
option is taken when the next argument comes, so of two faults the earlier one is not always the one
that is told. -/

namespace TemplateMap

/-- What the program is asked to do. -/
structure Invocation where
  compiled : Path
  template : Text
  source : Option Path
  /-- The template lines to find generated lines for. -/
  forward : List Int
  /-- The generated lines to find template lines for. -/
  reverse : List Int
  tool : Option Text
  timeout : Option Nat
  config : Option Path
  json : Bool
  dump : Bool
  quiet : Bool
  deriving DecidableEq

/-- Whether nothing is asked of the table. -/
def Invocation.asksNothing (i : Invocation) : Bool :=
  i.forward.isEmpty && i.reverse.isEmpty && !i.dump

/-- Why arguments make no invocation. -/
inductive UsageError
  | missingArgument
  | missingValue
  | unreadableValue
  | unknownArgument
  | repeatedArgument
  | unwantedValue
  | helpRequested
  deriving DecidableEq, Repr

namespace CommandLine

/-- The arguments that take a value. -/
inductive Valued
  | compiled
  | template
  | source
  | forward
  | reverse
  | tool
  | timeout
  | config
  deriving DecidableEq, Repr

/-- The arguments that are only there or not. -/
inductive Switch
  | json
  | dump
  | quiet
  | help
  deriving DecidableEq, Repr

/-- An argument with a name. -/
inductive Named
  | valued (v : Valued)
  | switch (s : Switch)
  deriving DecidableEq, Repr

/-- The argument with a long name. -/
def ofLong? (name : Text) : Option Named :=
  match name.str with
  | "template" => some (.valued .template)
  | "source" => some (.valued .source)
  | "forward" => some (.valued .forward)
  | "reverse" => some (.valued .reverse)
  | "tool" => some (.valued .tool)
  | "timeout-ms" => some (.valued .timeout)
  | "config" => some (.valued .config)
  | "json" => some (.switch .json)
  | "dump" => some (.switch .dump)
  | "quiet" => some (.switch .quiet)
  | "help" => some (.switch .help)
  | _ => none

/-- The argument with a short name. -/
def ofShort? : Char → Option Named
  | 't' => some (.valued .template)
  | 's' => some (.valued .source)
  | 'f' => some (.valued .forward)
  | 'r' => some (.valued .reverse)
  | 'c' => some (.valued .config)
  | 'q' => some (.switch .quiet)
  | 'h' => some (.switch .help)
  | _ => none

/-- The digits of a number after a plus sign that may be missing. -/
def natural? (bound : Nat) : Text → Option Nat
  | '+' :: digits => Text.number? bound digits
  | digits => Text.number? bound digits

/-- A number with a sign that may be missing, if a signed word of 64 bits holds it. -/
def integer? : Text → Option Int
  | '-' :: digits => (Text.number? 9223372036854775808 digits).map fun n => -(n : Int)
  | t => (natural? 9223372036854775807 t).map fun n => (n : Int)

/-- The arguments that have been taken. -/
structure Draft where
  compiled : Option Path
  template : Option Text
  source : Option Path
  forward : List Int
  reverse : List Int
  tool : Option Text
  timeout : Option Nat
  config : Option Path
  json : Bool
  dump : Bool
  quiet : Bool

namespace Draft

/-- No argument. -/
def empty : Draft :=
  { compiled := none, template := none, source := none, forward := [], reverse := [], tool := none
    timeout := none, config := none, json := false, dump := false, quiet := false }

/-- The value of an argument that may be given once; `read?` reads it. -/
def once {α : Type} (given : Option α) (read? : Except UsageError α) :
    Except UsageError (Option α) :=
  if given.isSome then .error .repeatedArgument else read?.map some

/-- A path, which is not empty. -/
def path (value : Text) : Except UsageError Path :=
  if value.isEmpty then .error .missingValue else .ok value

/-- What a reader of numbers reads. -/
def number {α : Type} : Option α → Except UsageError α
  | some n => .ok n
  | none => .error .unreadableValue

/-- The draft with the value of an argument. -/
def set (d : Draft) (v : Valued) (value : Text) : Except UsageError Draft :=
  match v with
  | .compiled => return { d with compiled := ← once d.compiled (path value) }
  | .template => return { d with template := ← once d.template (.ok value) }
  | .source => return { d with source := ← once d.source (path value) }
  | .forward => return { d with forward := d.forward ++ [← number (integer? value)] }
  | .reverse => return { d with reverse := d.reverse ++ [← number (integer? value)] }
  | .tool => return { d with tool := ← once d.tool (.ok value) }
  | .timeout =>
    return { d with timeout := ← once d.timeout (number (natural? 18446744073709551615 value)) }
  | .config => return { d with config := ← once d.config (path value) }

/-- The draft with a switch that was not given before. -/
def turnOn (d : Draft) : Switch → Except UsageError Draft
  | .json => if d.json then .error .repeatedArgument else .ok { d with json := true }
  | .dump => if d.dump then .error .repeatedArgument else .ok { d with dump := true }
  | .quiet => if d.quiet then .error .repeatedArgument else .ok { d with quiet := true }
  | .help => .error .helpRequested

/-- The invocation that the arguments make: the compiled file and the template are needed. -/
def finish (d : Draft) : Except UsageError Invocation :=
  match d.compiled, d.template with
  | some compiled, some template =>
    .ok { compiled, template, source := d.source, forward := d.forward, reverse := d.reverse,
          tool := d.tool, timeout := d.timeout, config := d.config, json := d.json, dump := d.dump,
          quiet := d.quiet }
  | _, _ => .error .missingArgument

end Draft

/-- What is known after some arguments. -/
structure Scan where
  draft : Draft
  /-- An argument whose value, if it has come, has not been taken yet. -/
  pending : Option (Valued × Option Text)
  /-- The compiled file has been given. -/
  placed : Bool
  /-- Two dashes have been given: no further argument has a name. -/
  namesDone : Bool

namespace Scan

/-- Nothing is known. -/
def start : Scan := ⟨.empty, none, false, false⟩

/-- The scan with the pending value taken. -/
def settle (s : Scan) : Except UsageError Scan :=
  match s.pending with
  | none => .ok s
  | some (_, none) => .error .missingValue
  | some (v, some value) => return { s with draft := ← s.draft.set v value, pending := none }

/-- The scan with an argument whose value comes with it. -/
def attach (s : Scan) (v : Valued) (value : Text) : Except UsageError Scan := do
  let s ← s.settle
  return { s with draft := ← s.draft.set v value }

/-- The scan with an argument whose value comes next. -/
def await (s : Scan) (v : Valued) : Except UsageError Scan :=
  return { ← s.settle with pending := some (v, none) }

/-- The scan with a switch. -/
def turnOn (s : Scan) (switch : Switch) : Except UsageError Scan := do
  let s ← s.settle
  return { s with draft := ← s.draft.turnOn switch }

/-- The scan after an argument without a name. -/
def place (s : Scan) (arg : Text) : Except UsageError Scan :=
  if s.placed then .error .unknownArgument
  else return { ← s.settle with pending := some (.compiled, some arg), placed := true }

/-- The scan after an argument that is the value of the one before it, or has no name. -/
def take (s : Scan) (arg : Text) : Except UsageError Scan :=
  match s.pending with
  | some (v, none) => .ok { s with pending := some (v, some arg) }
  | _ => s.place arg

/-- The scan after an argument with a long name, with the value after its equals sign. -/
def long (s : Scan) (name : Text) (value : Option Text) : Except UsageError Scan :=
  match ofLong? name, value with
  | some (.valued v), some value => s.attach v value
  | some (.valued v), none => s.await v
  | some (.switch _), some _ => .error .unwantedValue
  | some (.switch switch), none => s.turnOn switch
  | none, _ => .error .unknownArgument

/-- The scan after short names that share a dash; what follows the name of an argument with a value
is the value, an equals sign between them apart. -/
def short (s : Scan) : Text → Except UsageError Scan
  | [] => .ok s
  | c :: rest =>
    match ofShort? c with
    | none => .error .unknownArgument
    | some (.switch switch) => do short (← s.turnOn switch) rest
    | some (.valued v) =>
      match rest with
      | [] => s.await v
      | '=' :: value => s.attach v value
      | value => s.attach v value

/-- Whether the next argument may be a number below zero. -/
def awaitsLine (s : Scan) : Bool :=
  s.pending = some (.forward, none) || s.pending = some (.reverse, none)

end Scan

/-- Whether what follows a dash looks like a number: digits, a point after some of them, and an
exponent after that, which is not empty. -/
def looksNumeric (t : Text) : Bool :=
  let isExponent (c : Char) : Bool := c = 'e' || c = 'E'
  let (whole, rest) := t.span Char.isDigit
  let afterPoint := match rest with
    | '.' :: after => if whole.isEmpty then rest else after.dropWhile Char.isDigit
    | _ => rest
  match afterPoint with
  | [] => true
  | c :: exponent =>
    isExponent c && !whole.isEmpty && !exponent.isEmpty && exponent.all Char.isDigit

/-- The scan after one more argument. -/
def Scan.step (s : Scan) (arg : Text) : Except UsageError Scan :=
  if s.namesDone then s.place arg
  else
    match arg with
    | ['-', '-'] => .ok { s with namesDone := true }
    | '-' :: '-' :: name =>
      match Text.cut? (· = '=') name with
      | some (name, value) => s.long name (some value)
      | none => s.long name none
    | '-' :: c :: cluster =>
      if s.awaitsLine && looksNumeric (c :: cluster) then s.take arg else s.short (c :: cluster)
    | arg => s.take arg

/-- The invocation that the arguments after the program's name make. -/
def parse (args : List Text) : Except UsageError Invocation := do
  let s ← args.foldlM Scan.step .start
  let s ← s.settle
  s.draft.finish

end CommandLine

end TemplateMap
