import TemplateMap.Shell.Arithmetic
import TemplateMap.Shell.Field
import TemplateMap.Shell.Glob

/-! Expansion of words: parameters, outputs of commands, arithmetic and homes are put in, and the
words are cut into fields and matched with the paths of files. -/

namespace TemplateMap.Shell

/-- How a part of a word is expanded. -/
structure Manner where
  /-- The word is cut into fields. -/
  splits : Bool
  /-- The part stands in quotes. -/
  isQuoted : Bool
  /-- The part is the word after an operator, whose plain text is cut too. -/
  isReplacement : Bool
  /-- Homes are put in after colons. -/
  isAssignment : Bool

namespace Manner

/-- That of a word that becomes fields. -/
def fields : Manner := ⟨true, false, false, false⟩

/-- That of a word that stays one text. -/
def text : Manner := ⟨false, false, false, false⟩

/-- That of a value that is assigned. -/
def assignment : Manner := ⟨false, false, false, true⟩

/-- That of a document. -/
def document : Manner := ⟨false, true, false, false⟩

end Manner

/-- What runs commands whose output is put in. -/
abbrev OutputTaker := Option Command → Act Text

/-- The text before the first character without a code. -/
def untilNul (t : Text) : Text := t.takeWhile (· ≠ '\x00')

/-- How many characters at the start match a pattern, if some number of them does. -/
def trimmedStart? (longest : Bool) (pattern t : Text) : Option Nat :=
  let counts := List.range (t.length + 1)
  let fits (n : Nat) : Bool := matchesPattern pattern (untilNul (t.take n))
  if longest then counts.reverse.find? fits
  else (counts.take ((untilNul t).length + 1)).find? fits

/-- How many characters are left before an end that matches a pattern, if one does. -/
def trimmedEnd? (longest : Bool) (pattern t : Text) : Option Nat :=
  let counts := List.range (t.length + 1)
  let fits (n : Nat) : Bool := matchesPattern pattern (untilNul (t.drop n))
  if longest then (counts.take ((untilNul t).length + 1)).find? fits
  else counts.reverse.find? fits

/-- The glyphs that are left when a pattern is taken away. -/
def trimmed (atStart longest : Bool) (pattern : Text) (glyphs : List Glyph) : List Glyph :=
  let t := glyphText glyphs
  if atStart then
    match trimmedStart? longest pattern t with
    | some n => glyphs.drop n
    | none => glyphs
  else
    match trimmedEnd? longest pattern t with
    | some n => glyphs.take n
    | none => glyphs

namespace Act

/-- The letters of the options that are on, in the order in which they are shown. -/
def optionLetters : Act Text := do
  let m ← get
  return "efIimnsxvVECabup".toList.reverse.filter m.options.contains

/-- The glyphs of arguments with what stands between them. -/
def joinedArguments (manner : Manner) (isList : Bool) : Act (List Glyph) := do
  let m ← get
  let first := match m.value? "IFS".toList with
    | none => [' ']
    | some separators => separators.take 1
  let between :=
    if !manner.splits then first
    else if manner.isQuoted then if isList then ['\x00'] else first
    else if (m.value? "IFS".toList).isNone then [' ']
    else ['\x00']
  return glyphsOf manner.isQuoted (Text.joined between m.arguments)

/-- The glyphs of a parameter, if it is set. -/
def parameter? (manner : Manner) (name : Text) : Act (Option (List Glyph)) := do
  let m ← get
  let glyphs (t : Text) : Option (List Glyph) := some (glyphsOf manner.isQuoted t)
  match name with
  | ['$'] => return glyphs (Text.ofNat m.number)
  | ['?'] => return glyphs (Text.ofNat m.status)
  | ['#'] => return glyphs (Text.ofNat m.arguments.length)
  | ['!'] => return m.latest.bind fun n => glyphs (Text.ofNat n)
  | ['-'] => return glyphs (← optionLetters)
  | ['@'] => return some (← joinedArguments manner true)
  | ['*'] => return some (← joinedArguments manner false)
  | _ =>
    if name.head?.any Char.isDigit then
      match Text.digitsValue 0 name with
      | 0 => return glyphs m.name
      | n + 1 => return m.arguments[n]?.bind glyphs
    else return (m.value? name).bind glyphs

/-- Gives up because a parameter is not set. -/
def failUnset {α : Type} (name : Text) (message : Text) : Act α :=
  fail (name ++ ": ".toList ++ message)

/-- The span of the value of a parameter. -/
def valueSpan (manner : Manner) (name : Text) (glyphs : List Glyph) : Act Span := do
  let m ← get
  let cut : Cut :=
    if !manner.isQuoted then .separators
    else if name = ['@'] && !m.arguments.isEmpty then .arguments
    else .nowhere
  return ⟨cut, glyphs⟩

/-- The users that every system has, with their homes. -/
def homes : List (String × String) :=
  [("root", "/root"), ("daemon", "/usr/sbin"), ("bin", "/bin"), ("sys", "/dev"),
    ("sync", "/bin"), ("games", "/usr/games"), ("man", "/var/cache/man"),
    ("lp", "/var/spool/lpd"), ("mail", "/var/mail"), ("news", "/var/spool/news"),
    ("uucp", "/var/spool/uucp"), ("proxy", "/bin"), ("www-data", "/var/www"),
    ("backup", "/var/backups"), ("list", "/var/list"), ("irc", "/run/ircd"),
    ("_apt", "/nonexistent"), ("nobody", "/nonexistent")]

/-- The home that a text with a tilde in front names, if it is known. -/
def home? (name : Text) : Act (Option Text) := do
  let m ← get
  return if name.isEmpty then m.value? "HOME".toList
    else (homes.lookup name.str).map String.toList

/-- The home at the start of plain text and the text after it; `isLast` tells that the word ends
after the text. -/
def leadingHome? (isAssignment isLast : Bool) (t : Text) : Act (Option (Text × Text)) := do
  match t with
  | '~' :: rest =>
    let (name, after) := rest.span fun c => c ≠ '/' && !(isAssignment && c = ':')
    if after.isEmpty && !isLast then return none
    else
      match ← home? name with
      | some home => return some (home, after)
      | none => return none
  | _ => return none

/-- The spans of plain text that is not quoted; `atStart` tells that a home may come first, and
`run` is what was read before, the last character first.  `fuel` is more than the length of the
text. -/
def plainSpans (manner : Manner) (isLast : Bool) : (fuel : Nat) → (atStart : Bool) →
    (run : Text) → Text → Act (List Span)
  | 0, _, _, _ => return []
  | fuel + 1, atStart, run, t => do
    let cut : Cut := if manner.isReplacement then .separators else .nowhere
    let before : List Span := if run.isEmpty then [] else [⟨cut, glyphsOf false run.reverse⟩]
    let home ← if atStart then leadingHome? manner.isAssignment isLast t else pure none
    match home, t with
    | some (home, after), _ =>
      return before ++ ⟨.nowhere, glyphsOf true home⟩ ::
        (← plainSpans manner isLast fuel false [] after)
    | none, c :: rest =>
      plainSpans manner isLast fuel (manner.isAssignment && c = ':') (c :: run) rest
    | none, [] => return before

mutual

/-- The spans of an expansion; `fuel` bounds how deep expansions lie in one another. -/
def expansion (take : OutputTaker) (fuel : Nat) (manner : Manner) (e : Expansion) :
    Act (List Span) :=
  match fuel with
  | 0 => fail "too deep".toList
  | fuel + 1 => do
    let resultCut : Cut := if manner.isQuoted then .nowhere else .separators
    let value (name : Text) : Act (List Span) := do
      match ← parameter? manner name with
      | some glyphs => return [← valueSpan manner name glyphs]
      | none =>
        if ← option 'u' then failUnset name "parameter not set".toList
        else return [← valueSpan manner name []]
    match e with
    | .bad => fail "Bad substitution".toList
    | .parameter name => value name
    | .length name =>
      match ← parameter? { manner with splits := false } name with
      | some glyphs =>
        return [← valueSpan manner name (glyphsOf manner.isQuoted (Text.ofNat glyphs.length))]
      | none =>
        if ← option 'u' then failUnset name "parameter not set".toList
        else return [← valueSpan manner name (glyphsOf manner.isQuoted ['0'])]
    | .output command => return [⟨resultCut, glyphsOf manner.isQuoted (← take command)⟩]
    | .arithmetic parts =>
      let spans ← partSpans take fuel .text false parts
      let n ← calculate (glyphText (spans.flatMap Span.glyphs))
      return [⟨resultCut, glyphsOf manner.isQuoted (Text.ofInt n)⟩]
    | .modified name orEmpty operator word =>
      let given ← parameter? manner name
      let given := if orEmpty then given.filter (!·.isEmpty) else given
      let replacement : Act (List Span) :=
        partSpans take fuel { manner with isReplacement := true, isAssignment := false } true word
      match operator, given with
      | .orElse, some glyphs => return [← valueSpan manner name glyphs]
      | .orElse, none => replacement
      | .instead, some _ => replacement
      | .instead, none => return [← valueSpan manner name []]
      | .assigned, some glyphs => return [← valueSpan manner name glyphs]
      | .assigned, none =>
        let spans ← partSpans take fuel .text true word
        assign name (glyphText (spans.flatMap Span.glyphs))
        value name
      | .required, some glyphs => return [← valueSpan manner name glyphs]
      | .required, none =>
        if word.isEmpty then
          let message := "parameter not set" ++ (if orEmpty then " or null" else "")
          failUnset name message.toList
        else
          let spans ← partSpans take fuel .text true word
          failUnset name (glyphText (spans.flatMap Span.glyphs))
      | .withoutStart longest, some glyphs =>
        let spans ← partSpans take fuel .text true word
        let pattern := glyphPattern false (spans.flatMap Span.glyphs)
        return [← valueSpan manner name (trimmed true longest pattern glyphs)]
      | .withoutEnd longest, some glyphs =>
        let spans ← partSpans take fuel .text true word
        let pattern := glyphPattern false (spans.flatMap Span.glyphs)
        return [← valueSpan manner name (trimmed false longest pattern glyphs)]
      | _, none =>
        if ← option 'u' then failUnset name "parameter not set".toList
        else return [← valueSpan manner name []]

/-- The spans of parts of a word; `atStart` tells that a home may come first. -/
def partSpans (take : OutputTaker) (fuel : Nat) (manner : Manner) (atStart : Bool)
    (parts : List Part) : Act (List Span) :=
  match fuel with
  | 0 => fail "too deep".toList
  | fuel + 1 => do
    match parts with
    | [] => return []
    | p :: rest =>
      let mark : Span := ⟨.nowhere, [.mark]⟩
      let spans ← match p with
        | .plain t =>
          if manner.isQuoted then pure [⟨.nowhere, glyphsOf true t⟩]
          else if t.contains '~' then
            plainSpans manner rest.isEmpty (t.length + 1) atStart [] t
          else pure [⟨if manner.isReplacement then .separators else .nowhere, glyphsOf false t⟩]
        | .escaped t => pure [⟨.nowhere, glyphsOf true t⟩]
        | .quotation [.expanded (.parameter ['@'])] =>
          expansion take fuel { manner with isQuoted := true } (.parameter ['@'])
        | .quotation inner => do
          let inside ← partSpans take fuel { manner with isQuoted := true } false inner
          pure (mark :: inside ++ [mark])
        | .expanded e => expansion take fuel manner e
      return spans ++ (← partSpans take fuel manner false rest)

end

/-- How deep expansions may lie in one another. -/
def maxExpansion : Nat := 1000000

/-- The text of a word that stays one. -/
def textOf (take : OutputTaker) (manner : Manner) (atStart : Bool) (word : Word) : Act Text := do
  let spans ← partSpans take maxExpansion manner atStart word
  return glyphText (spans.flatMap Span.glyphs)

/-- The pattern that a word is. -/
def patternOf (take : OutputTaker) (word : Word) : Act Text := do
  let spans ← partSpans take maxExpansion .text true word
  return glyphPattern false (spans.flatMap Span.glyphs)

/-- The paths that a field matches, or else the field. -/
def pathsOf (field : List Glyph) : Act (List Text) := do
  let t := glyphText field
  if !Glob.isPattern t || (← option 'f') then return [t]
  else
    let m ← get
    match Glob.all (← files) m.directory (glyphPattern false field) with
    | [] => return [t]
    | found => return found

/-- The fields that a word becomes. -/
def fieldsOfWord (take : OutputTaker) (word : Word) : Act (List Text) := do
  let spans ← partSpans take maxExpansion .fields true word
  let m ← get
  let fields := fieldsOf m.separators none spans
  return (← fields.mapM pathsOf).flatten

/-- The texts that a word becomes after a command that marks variables: an assignment stays one. -/
def argumentsOf (take : OutputTaker) (marks : Bool) (word : Word) : Act (List Text) := do
  match if marks then assignment? word else none with
  | some (name, value) => return [name ++ '=' :: (← textOf take .assignment true value)]
  | none => fieldsOfWord take word

end Act

end TemplateMap.Shell
