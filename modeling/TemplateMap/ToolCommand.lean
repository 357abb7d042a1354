import TemplateMap.Text.Basic

/-! Tool commands: one line cut into the words of a command.  Blanks separate words, single quotes
keep everything, double quotes all but a few escapes, a backslash the character after it, and a
number sign that starts a word begins a comment to the end of the line. -/

namespace TemplateMap.ToolCommand

/-- Where in a command a character stands. -/
inductive Place
  /-- Between two words. -/
  | between
  /-- In a comment. -/
  | comment
  /-- In a word, outside quotes. -/
  | word
  /-- After a backslash outside quotes. -/
  | escaped
  | singleQuoted
  | doubleQuoted
  /-- After a backslash in double quotes. -/
  | doubleEscaped
  deriving DecidableEq, Repr

/-- The characters that separate words. -/
def isBreak (c : Char) : Bool := c = ' ' || c = '\t' || c = '\n'

/-- The characters that a backslash escapes in double quotes; before any other it stands for
itself. -/
def isDoubleEscapable (c : Char) : Bool := c = '$' || c = '\x60' || c = '"' || c = '\\'

/-- The words of the rest of a command, where `word` is what the current word has so far, the last
character first; none if the command ends in quotes or after a backslash. -/
def wordsFrom (place : Place) (word : Text) : Text → Option (List Text)
  | [] =>
    match place with
    | .between | .comment => some []
    | .word => some [word.reverse]
    | .escaped | .singleQuoted | .doubleQuoted | .doubleEscaped => none
  | c :: rest =>
    match place with
    | .between =>
      if isBreak c then wordsFrom .between [] rest
      else if c = '#' then wordsFrom .comment [] rest
      else if c = '"' then wordsFrom .doubleQuoted [] rest
      else if c = '\'' then wordsFrom .singleQuoted [] rest
      else if c = '\\' then wordsFrom .escaped [] rest
      else wordsFrom .word [c] rest
    | .comment => wordsFrom (if c = '\n' then .between else .comment) [] rest
    | .word =>
      if isBreak c then (wordsFrom .between [] rest).map (word.reverse :: ·)
      else if c = '"' then wordsFrom .doubleQuoted word rest
      else if c = '\'' then wordsFrom .singleQuoted word rest
      else if c = '\\' then wordsFrom .escaped word rest
      else wordsFrom .word (c :: word) rest
    | .escaped =>
      if c = '\n' then wordsFrom .word word rest else wordsFrom .word (c :: word) rest
    | .singleQuoted =>
      if c = '\'' then wordsFrom .word word rest else wordsFrom .singleQuoted (c :: word) rest
    | .doubleQuoted =>
      if c = '"' then wordsFrom .word word rest
      else if c = '\\' then wordsFrom .doubleEscaped word rest
      else wordsFrom .doubleQuoted (c :: word) rest
    | .doubleEscaped =>
      if isDoubleEscapable c then wordsFrom .doubleQuoted (c :: word) rest
      else if c = '\n' then wordsFrom .doubleQuoted word rest
      else wordsFrom .doubleQuoted (c :: '\\' :: word) rest

/-- The words of a command, unless it ends in the middle of one. -/
def words? (command : Text) : Option (List Text) := wordsFrom .between [] command

end TemplateMap.ToolCommand
