import TemplateMap.Line
import TemplateMap.Template
import TemplateMap.Text.WordChar

/-! Line annotations: the comments that a generator leaves before the code of a template line, in
the four shapes

```text
//line 15 "index.jsp"
// Line 15, JSP file: /index.jsp
/* Line 15, file: index.jsp */
// generated from line 15 (x.jsp)
```

of which the last one counts only where the line names the template's extension.  Each annotation
puts its template line onto the generated line after it. -/

namespace TemplateMap.Annotation

/-- The digits and the file name of an annotation. -/
structure Marker where
  number : Text
  file : Text
  deriving DecidableEq

/-- The rest of a text after the word `word`, which is in lower case, in any letter case. -/
def afterWord? (word t : Text) : Option Text :=
  if word.isPrefixOf (Text.asciiLower (t.take word.length)) then some (t.drop word.length) else none

/-- The rest of a text after the characters `lead`. -/
def after? (lead t : Text) : Option Text :=
  if lead.isPrefixOf t then some (t.drop lead.length) else none

/-- The rest of a text after at least one white space character. -/
def afterBlanks? (t : Text) : Option Text :=
  match t with
  | c :: _ => if isBlank c then some t.trimStart else none
  | [] => none

/-- The decimal digits at the start of a text, at least one, and the rest. -/
def digits? (t : Text) : Option (Text × Text) :=
  let (digits, rest) := t.span isDecimalDigit
  if digits.isEmpty then none else some (digits, rest)

/-- The start that the three named shapes share: the comment's opening, the word and the number. -/
def lineNumber? (opening line : Text) : Option (Text × Text) := do
  let t ← after? opening line.trimStart
  let t ← afterWord? ['l', 'i', 'n', 'e'] t.trimStart
  let t ← afterBlanks? t
  digits? t

/-- The opening of a comment that ends with its line. -/
def lineComment : Text := ['/', '/']

/-- The shape `//line 15 "index.jsp"`. -/
def quotedMarker? (line : Text) : Option Marker := do
  let (number, t) ← lineNumber? lineComment line
  let t ← afterBlanks? t
  let t ← after? ['"'] t
  let (file, t) := t.span (· ≠ '"')
  if t.isEmpty then none else some ⟨number, file⟩

/-- The rest after a word and white space, where the text starts with both and `file:` follows. -/
def dropQualifier (t : Text) : Text :=
  let (word, rest) := t.span isWordChar
  match word.isEmpty, afterBlanks? rest with
  | false, some rest => rest
  | _, _ => t

/-- The rest of a text after `file:` and white space. -/
def afterFileLabel? (t : Text) : Option Text :=
  (afterWord? ['f', 'i', 'l', 'e', ':'] t).map Text.trimStart

/-- The shape `// Line 15, JSP file: /index.jsp`, where the word before `file:` may be missing. -/
def labelledMarker? (line : Text) : Option Marker := do
  let (number, t) ← lineNumber? lineComment line
  let t ← after? [','] t
  let t ← afterFileLabel? (dropQualifier t.trimStart)
  let file := t.takeWhile fun c => !isBlank c
  if file.isEmpty then none else some ⟨number, file⟩

/-- The shortest run without white space that the end of the comment follows, white space between
them apart. -/
def untilClose? : Text → Option Text
  | [] => none
  | c :: rest =>
    if isBlank c then none
    else if ['*', '/'].isPrefixOf (Text.trimStart rest) then some [c]
    else (untilClose? rest).map (c :: ·)

/-- The shape `/* Line 15, file: index.jsp */`. -/
def blockMarker? (line : Text) : Option Marker := do
  let (number, t) ← lineNumber? ['/', '*'] line
  let t ← after? [','] t
  let t ← afterFileLabel? t.trimStart
  return ⟨number, ← untilClose? t⟩

/-- The digits after the word `line` at the start of a text, `before` being the character in front
of the text. -/
def numberHere? (before : Char) (t : Text) : Option Text :=
  if isWordChar before then none
  else do
    let rest ← afterWord? ['l', 'i', 'n', 'e'] t
    return (← digits? rest.trimStart).1

/-- The digits of the shape `// … line 15`: those after the first word `line` that has digits after
it and stands on one line behind an opening.  In a comment `before` is the character in front of the
text; elsewhere there is none. -/
def looseNumber? (before : Option Char) (t : Text) : Option Text :=
  match before, t with
  | _, [] => none
  | _, '\n' :: rest => looseNumber? none rest
  | none, '/' :: '/' :: inside => looseNumber? (some '/') inside
  | none, _ :: rest => looseNumber? none rest
  | some b, c :: rest =>
    match numberHere? b (c :: rest) with
    | some digits => some digits
    | none => looseNumber? (some c) rest
termination_by t.length

/-- The digits of the shape `// … line 15`. -/
def looseMarker? (line : Text) : Option Text := looseNumber? none line

/-- The value of an annotation's digits, if they are ASCII and the number is at most `lastLine`. -/
def lineOf? (digits : Text) : Option Nat := digits.number? lastLine

/-- Whether a line holds the template's extension after a dot, in any letter case. -/
def namesExtension (template : Template) (line : Text) : Bool :=
  match template.extension? with
  | some extension => occursIn ('.' :: extension.asciiLower) line.asciiLower
  | none => false

/-- The template line that one line of the source announces.  The first named shape that the line
has decides: a file other than the template's makes the line no annotation at all. -/
def ofLine? (template : Template) (line : Text) : Option Nat :=
  match ((quotedMarker? line).or (labelledMarker? line)).or (blockMarker? line) with
  | some marker =>
    if template.matchName marker.file = .none then none else lineOf? marker.number
  | none =>
    if namesExtension template line then (looseMarker? line).bind lineOf? else none

end TemplateMap.Annotation
