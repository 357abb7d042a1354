import TemplateMap.Text.Basic

/-! Commands of the shell language: words with their expansions, redirections, and the ways to put
commands together.  All texts are bytes, one character for each. -/

namespace TemplateMap.Shell

/-- What an operator between the braces of a parameter does with the word after it. -/
inductive Operator
  /-- The word stands for a parameter that is not set. -/
  | orElse
  /-- The word stands for a parameter that is set. -/
  | instead
  /-- A parameter that is not set is refused with the word. -/
  | required
  /-- The word is given to a parameter that is not set. -/
  | assigned
  /-- A part at the start that matches the word is left out. -/
  | withoutStart (longest : Bool)
  /-- A part at the end that matches the word is left out. -/
  | withoutEnd (longest : Bool)
  deriving DecidableEq

/-- How a file is opened by a redirection. -/
inductive FileMode
  | input
  | output
  | forced
  | extension
  | both
  deriving DecidableEq

mutual

/-- What a dollar sign or a backquote asks for. -/
inductive Expansion
  | parameter (name : Text)
  | length (name : Text)
  /-- A parameter with an operator and the word after it; with `orEmpty` an empty parameter counts
  as one that is not set. -/
  | modified (name : Text) (orEmpty : Bool) (operator : Operator) (word : List Part)
  /-- Braces around something that is no parameter. -/
  | bad
  | output (script : Option Command)
  | arithmetic (expression : List Part)

/-- A part of a word. -/
inductive Part
  | plain (text : Text)
  /-- Characters after backslashes. -/
  | escaped (text : Text)
  /-- What stands between quotes; its plain text is quoted. -/
  | quotation (parts : List Part)
  | expanded (e : Expansion)

/-- What a redirection puts in the place of a descriptor. -/
inductive Target
  | file (mode : FileMode) (path : List Part)
  | copy (source : Nat)
  | closed
  /-- The descriptor that a word names. -/
  | named (source : List Part)
  /-- The document with a number; its parts are those of a quotation. -/
  | document (number : Nat)

/-- A change of what a descriptor stands for. -/
inductive Redirection
  | of (descriptor : Nat) (target : Target)

/-- A command.  A line is the number of the line that the command stands on. -/
inductive Command
  | simple (line : Nat) (assignments : List (Text × List Part)) (words : List (List Part))
      (redirections : List Redirection)
  | redirected (line : Nat) (body : Command) (redirections : List Redirection)
  | subshell (line : Nat) (body : Command) (redirections : List Redirection)
  | background (line : Nat) (body : Command) (redirections : List Redirection)
  | pipeline (stages : List Command) (isBackground : Bool)
  | negated (body : Command)
  | both (first second : Command)
  | either (first second : Command)
  | sequence (first second : Command)
  | conditional (test yes : Command) (no : Option Command)
  /-- Runs the body as long as the test succeeds, or as long as it fails. -/
  | loop (untilSuccess : Bool) (test body : Command)
  /-- Runs the body with the name standing for each word. -/
  | each (line : Nat) (name : Text) (words : List (List Part)) (body : Command)
  | choice (line : Nat) (word : List Part) (arms : List (List (List Part) × Option Command))
  | define (line : Nat) (name : Text) (body : Command)

end

/-- A word: parts that belong together. -/
abbrev Word := List Part

/-- A function: the line that its definition stands on, and its body. -/
structure Function where
  line : Nat
  body : Command

/-- Whether a name can start with `c`. -/
def isNameStart (c : Char) : Bool := c.isAlpha || c = '_'

/-- Whether a name can go on with `c`. -/
def isNameChar (c : Char) : Bool := c.isAlphanum || c = '_'

/-- Whether `c` alone is the name of a parameter. -/
def isSpecial (c : Char) : Bool := c.isDigit || "@*#?-$!".toList.contains c

/-- Whether `t` is a name. -/
def isName : Text → Bool
  | [] => false
  | c :: rest => isNameStart c && rest.all isNameChar

/-- The name and the first character after it, where a text begins with a name. -/
def nameAndRest? (t : Text) : Option (Text × Text) :=
  if t.head?.any isNameStart then some (t.takeWhile isNameChar, t.dropWhile isNameChar) else none

/-- The name and the value of a word that is an assignment. -/
def assignment? : Word → Option (Text × Word)
  | .plain t :: rest =>
    match nameAndRest? t with
    | some (name, '=' :: value) =>
      some (name, if value.isEmpty then rest else .plain value :: rest)
    | _ => none
  | _ => none

/-- The names of the builtin commands that a function cannot have. -/
def specialNames : List String :=
  [".", ":", "break", "continue", "eval", "exec", "exit", "export", "local", "readonly", "return",
    "set", "shift", "times", "trap", "unset"]

end TemplateMap.Shell
