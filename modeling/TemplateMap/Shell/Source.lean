import TemplateMap.Shell.Command

/-! Sources: what is left of a script while it is read, with the aliases that stand for other text
and the documents that are owed to commands.  A source that is not complete can be read only as far
as no more text is needed. -/

namespace TemplateMap.Shell

/-- Why a script cannot be read. -/
inductive Fault
  /-- Something is wrong at a line, `left` characters before the end. -/
  | malformed (message : String) (line left : Nat)
  /-- What comes next depends on text that has not been got yet. -/
  | incomplete
  /-- Commands lie too deep in one another. -/
  | tooDeep

/-- What the operator of a redirection asks for. -/
inductive RedirectionKind
  | file (mode : FileMode)
  | copy
  | document (stripsTabs : Bool)

/-- A piece of a script that the reader of commands takes at once. -/
inductive Token
  | endOfInput
  | newline
  | semicolon
  | ampersand
  | both
  | either
  | pipe
  | opening
  | closing
  | endOfArm
  | redirection (descriptor : Nat) (kind : RedirectionKind)
  | word (w : Word)
  | keyword (name : String)

/-- A document that is to be read after the end of the line. -/
structure Owed where
  number : Nat
  delimiter : Text
  /-- Expansions in the document are made. -/
  expands : Bool
  /-- Tabs at the start of a line are left out. -/
  stripsTabs : Bool

/-- What is left of a script. -/
structure Source where
  text : Text
  line : Nat
  /-- No more text will come. -/
  isComplete : Bool
  aliases : List (Text × Text)
  /-- The aliases in whose text the reader is. -/
  active : List Text
  /-- The next word may be an alias because the text of an alias before it ended in a blank. -/
  afterBlank : Bool
  /-- A token that has been read and is to be taken again. -/
  pending : Option Token
  /-- The token that was read last. -/
  last : Token
  owed : List Owed
  documents : List (Nat × Word)
  /-- The number of the next document. -/
  nextDocument : Nat

/-- A reader of a script. -/
abbrev Reader := StateT Source (Except Fault)

namespace Source

/-- A source with a text from its first line on. -/
def ofText (text : Text) (isComplete : Bool) (aliases : List (Text × Text))
    (nextDocument : Nat) : Source :=
  { text, line := 1, isComplete, aliases, active := [], afterBlank := false, pending := none
    last := .newline, owed := [], documents := [], nextDocument }

/-- The mark after the text of an alias.  It is no byte, so no script holds it. -/
def aliasEnd : Char := '\u0100'

/-- The mark after the text of an alias that ends in a blank. -/
def blankEnd : Char := '\u0101'

/-- The source with the text of an alias in front. -/
def push (s : Source) (name value : Text) : Source :=
  let isBlank (c : Char) : Bool := c = ' ' || c = '\t'
  let mark := if value.getLast?.any isBlank then blankEnd else aliasEnd
  { s with text := value ++ mark :: s.text, active := name :: s.active }

/-- The source after the mark at the end of the text of an alias. -/
def leaveAlias (s : Source) (rest : Text) (blank : Bool) : Source :=
  { s with text := rest, active := s.active.drop 1, afterBlank := s.afterBlank || blank }

/-- The number of the line and the text after continued lines at the start of a text. -/
def joined (line : Nat) : Text → Nat × Text
  | '\\' :: '\n' :: rest => joined (line + 1) rest
  | t => (line, t)

/-- The characters of a class at the start of a text, continued lines between them, and the number
of the line and the text after them. -/
def span (p : Char → Bool) (line : Nat) : Text → Text × Nat × Text
  | '\\' :: '\n' :: rest => span p (line + 1) rest
  | c :: rest =>
    if p c then
      let (taken, after) := span p line rest
      (c :: taken, after)
    else ([], line, c :: rest)
  | [] => ([], line, [])

/-- The source after the marks at its start that end the texts of aliases with a blank. -/
def leaveBlanks (s : Source) : Text → Source
  | [] => s
  | c :: rest => if c = blankEnd then leaveBlanks (s.leaveAlias rest true) rest else s

/-- The lines of a source that have been looked at when `left` characters are left; the marks of
aliases are not shown. -/
def linesBefore (s : Source) (left : Nat) : Text :=
  let count := s.text.length - left
  let (seen, rest) := (s.text.take count, s.text.drop count)
  let lines :=
    if seen.isEmpty || seen.getLast? = some '\n' then seen
    else
      let (before, after) := rest.span (· ≠ '\n')
      seen ++ before ++ after.take 1
  lines.filter fun c => c.toNat < 256

/-- Whether it depends on more text what comes next. -/
def isShort (s : Source) : Bool :=
  !s.isComplete && (s.text.isEmpty || s.text = ['\\'])

end Source

namespace Reader

/-- Gives up because of a fault in the script. -/
def fail {α : Type} (message : String) : Reader α := do
  let s ← get
  throw (.malformed message s.line s.text.length)

/-- The next character, left where it is. -/
def peek : Reader (Option Char) := do
  let s ← get
  let s := s.leaveBlanks s.text
  set s
  if s.text.isEmpty && !s.isComplete then throw .incomplete
  return s.text.head?

/-- Takes the next character. -/
def advance : Reader Unit :=
  modify fun s =>
    match s.text with
    | [] => s
    | c :: rest =>
      if c = Source.aliasEnd then s.leaveAlias rest false
      else if c = '\n' then { s with text := rest, line := s.line + 1 }
      else { s with text := rest }

/-- Takes the next character and gives it. -/
def take : Reader (Option Char) := do
  let c ← peek
  advance
  return c

/-- The next character after continued lines, left where it is. -/
def peekJoined : Reader (Option Char) := do
  let s ← get
  let s := s.leaveBlanks s.text
  let (line, text) := Source.joined s.line s.text
  let s := { s with line, text }
  set s
  if s.isShort then throw .incomplete
  return s.text.head?

/-- Takes the next character after continued lines and gives it. -/
def takeJoined : Reader (Option Char) := do
  let c ← peekJoined
  advance
  return c

/-- Takes the next character after continued lines if it is a certain one. -/
def takeIf (c : Char) : Reader Bool := do
  if (← peekJoined) = some c then
    advance
    return true
  else return false

/-- Takes the characters of a class, continued lines between them. -/
def takeWhile (p : Char → Bool) : Reader Text := do
  let s ← get
  let (taken, line, text) := Source.span p s.line s.text
  let s := { s with line, text }
  set s
  if s.isShort then throw .incomplete
  return taken

end Reader

end TemplateMap.Shell
