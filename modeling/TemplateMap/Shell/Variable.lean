import TemplateMap.Number.Integer
import TemplateMap.Shell.Machine

/-! Variables of a shell: their values, their marks, and those that stand for them inside of
functions and commands. -/

namespace TemplateMap.Shell

namespace Act

/-- Gives up because a text is no number that fits. -/
def badNumber {α : Type} (t : Text) : Act α := fail ("Illegal number: ".toList ++ t)

/-- The number that a text writes, which blanks may surround; the base is ten or that which its
first digits tell.  Where the digits tell the base, a blank text is zero. -/
def integer (anyBase : Bool) (t : Text) : Act Int := do
  match if anyBase then Integer.prefix? t else Integer.decimalPrefix? t with
  | some p =>
    if p.rest.all Integer.isBlank && Integer.clamped p.value = p.value then return p.value
    else badNumber t
  | none => if anyBase && t.all Integer.isBlank then return 0 else badNumber t

/-- The number that a text writes, if it is not below zero and a signed word of 32 bits holds
it. -/
def natural (t : Text) : Act Nat := do
  let n ← integer false t
  if n < 0 || 2147483647 < n then badNumber t else return n.toNat

/-- The names of the variables that are never removed. -/
def lastingNames : List String := ["IFS", "OPTIND", "PATH", "PPID", "PS1", "PS2", "PS4"]

/-- What the value of some variables changes besides. -/
def noteChange (name : Text) (value : Text) : Act Unit := do
  match name.str with
  | "OPTIND" =>
    let n ← natural value
    modify fun m => { m with cursor := ⟨max n 1, none⟩ }
  | "PATH" => modify fun m => { m with tracked := [], stale := [] }
  | _ => return

/-- Gives a variable a value, or takes it away, and adds marks. -/
def setVariable (name : Text) (value : Option Text) (exports readOnly : Bool) : Act Unit := do
  let m ← get
  let exports := exports || m.options.contains 'a'
  match m.lookup? name with
  | some v =>
    if v.isReadOnly then failAbout name "is read only"
    noteChange name (value.getD [])
    let isGone := value.isNone && !exports && !readOnly && !lastingNames.contains name.str
    let v := ⟨value, exports || v.isExported, readOnly || v.isReadOnly⟩
    modify fun m => m.setVariable name (if isGone then none else some v)
  | none =>
    if value.isSome || exports || readOnly then
      set (m.setVariable name (some ⟨value, exports, readOnly⟩))

/-- Refuses a name that is none. -/
def checkName (name : Text) : Act Unit := do
  unless isName name do failAbout name "bad variable name"

/-- Gives a variable a value. -/
def assign (name value : Text) : Act Unit := do
  checkName name
  setVariable name (some value) false false

/-- Takes a variable away. -/
def unset (name : Text) : Act Unit := do
  checkName name
  setVariable name none false false

/-- A text cut at its first equals sign. -/
def cutAssignment (t : Text) : Text × Option Text :=
  match Text.cut? (· = '=') t with
  | some (name, value) => (name, some value)
  | none => (t, none)

/-- Marks a variable that a text names, and gives it the value that the text gives. -/
def mark (t : Text) (exports readOnly : Bool) : Act Unit := do
  let m ← get
  match cutAssignment t with
  | (name, none) =>
    match m.lookup? name with
    | some v =>
      let v := { v with
        isExported := v.isExported || exports
        isReadOnly := v.isReadOnly || readOnly }
      set (m.setVariable name (some v))
    | none =>
      checkName name
      setVariable name none exports readOnly
  | (name, value) =>
    checkName name
    setVariable name value exports readOnly

/-- Begins a range of commands with variables of their own. -/
def pushLocals : Act Unit := modify fun m => { m with locals := [] :: m.locals }

/-- The name under which the options are kept with local variables. -/
def optionsName : Text := ['-']

/-- Makes a variable local that a text names, and gives it the value that the text gives. -/
def makeLocal (t : Text) (exports : Bool) : Act Unit := do
  let m ← get
  let (name, value) := cutAssignment t
  let keep (name : Text) (v : Option Variable) : Act Unit :=
    modify fun m =>
      match m.locals with
      | [] => m
      | frame :: rest => { m with locals := ((name, v) :: frame) :: rest }
  if t = optionsName then
    keep name (some ⟨some m.options, false, false⟩)
  else
    match m.lookup? name with
    | some v =>
      if value.isSome then setVariable name value exports false
      keep name (some v)
    | none =>
      checkName name
      match value with
      | some value => setVariable name (some value) exports false
      | none => set (m.setVariable name (some ⟨none, exports, false⟩))
      keep name none

/-- Puts a variable back as it was before it became local. -/
def restore (name : Text) (v : Option Variable) : Act Unit := do
  if name = optionsName then
    modify fun m => { m with options := (v.bind Variable.value).getD m.options }
  else
    modify fun m => m.setVariable name v
    match v.bind Variable.value with
    | some value => noteChange name value
    | none => return

/-- Puts variables back as they were before they became local. -/
def restoreAll : List (Text × Option Variable) → Act Unit
  | [] => return
  | (name, v) :: rest => do
    restore name v
    restoreAll rest

/-- Ends ranges of commands with variables of their own until `count` are left. -/
def popLocals (count : Nat) : Act Unit := do
  let m ← get
  let gone := m.locals.take (m.locals.length - count)
  set { m with locals := m.locals.drop (m.locals.length - count) }
  restoreAll gone.flatten

end Act

/-- A text in quotes from which it is read back; `fuel` is more than its length. -/
def quotedFrom : (fuel : Nat) → Text → Text
  | 0, t => t
  | fuel + 1, t =>
    let (plain, rest) := t.span (· ≠ '\'')
    let (quotes, rest) := rest.span (· = '\'')
    let inQuotes := if quotes.isEmpty then [] else '"' :: quotes ++ ['"']
    '\'' :: plain ++ '\'' :: inQuotes ++ (if rest.isEmpty then [] else quotedFrom fuel rest)

/-- A text in quotes from which it is read back. -/
def quotedValue (t : Text) : Text := quotedFrom (t.length + 1) t

end TemplateMap.Shell
