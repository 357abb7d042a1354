import TemplateMap.Shell.Source

/-! Words of a script: quotes, backslashes, and the expansions that a dollar sign or a backquote
begins. -/

namespace TemplateMap.Shell

/-- Where a part of a word stands, which decides what its characters mean and what ends it. -/
inductive Setting
  | outer
  /-- In the braces of a parameter. -/
  | braces
  /-- In double quotes, which may be in such braces. -/
  | quotes (inBraces : Bool)
  /-- In the braces of a parameter that is quoted, or stands in a document. -/
  | quotedBraces (inDocument : Bool)
  | arithmetic (depth : Nat)
  | document (owed : Owed)

namespace Setting

/-- Whether plain text is quoted. -/
def isQuoted : Setting → Bool
  | .outer | .braces => false
  | _ => true

/-- Whether a backslash keeps its place before a character in quoted text. -/
def keepsBackslash (s : Setting) (c : Char) : Bool :=
  match c with
  | '\\' | '$' | '\x60' => false
  | '"' =>
    match s with
    | .document _ => true
    | _ => false
  | '\x7d' =>
    match s with
    | .quotes true | .quotedBraces _ => false
    | _ => true
  | _ => true

/-- Where the word after an operator stands; that of a pattern is not quoted. -/
def ofWord (s : Setting) (isPattern : Bool) : Setting :=
  match s with
  | .outer | .braces => .braces
  | .document _ => if isPattern then .braces else .quotedBraces true
  | .quotedBraces d => if isPattern then .braces else .quotedBraces d
  | _ => if isPattern then .braces else .quotedBraces false

/-- What a script lacks that ends here, if it must not end here. -/
def missing? : Setting → Option String
  | .outer | .document _ => none
  | .braces | .quotedBraces true => some "Missing '\x7d'"
  | .quotes _ | .quotedBraces false => some "Unterminated quoted string"
  | .arithmetic _ => some "Missing '))'"

end Setting

/-- Whether `c` ends a word outside quotes. -/
def isDelimiter (c : Char) : Bool := " \t\n;&|()<>".toList.contains c || c = Source.aliasEnd

namespace Reader

/-- Puts a character back in front. -/
def putBack (c : Char) : Reader Unit :=
  modify fun s => { s with text := c :: s.text, line := if c = '\n' then s.line - 1 else s.line }

/-- The text up to a single quote, which is taken too; `fuel` is more than its length. -/
def untilQuote : (fuel : Nat) → (taken : Text) → Reader Text
  | 0, _ => throw .tooDeep
  | fuel + 1, taken => do
    match ← take with
    | none => fail "Unterminated quoted string"
    | some '\'' => return taken.reverse
    | some c => untilQuote fuel (if c = Source.aliasEnd then taken else c :: taken)

/-- The script up to a backquote, which is taken too; a backslash in it keeps a few characters from
their meaning.  `fuel` is more than its length. -/
def untilBackquote (isQuoted : Bool) : (fuel : Nat) → (taken : Text) → Reader Text
  | 0, _ => throw .tooDeep
  | fuel + 1, taken => do
    match ← takeJoined with
    | none => fail "EOF in backquote substitution"
    | some '\x60' => return taken.reverse
    | some '\\' =>
      let c ← take
      let isFreed := c.any fun c => c = '\\' || c = '\x60' || c = '$' || (isQuoted && c = '"')
      untilBackquote isQuoted fuel (c.toList ++ if isFreed then taken else '\\' :: taken)
    | some c => untilBackquote isQuoted fuel (if c = Source.aliasEnd then taken else c :: taken)

/-- The expansion of a script in backquotes; `commands` reads a list of commands. -/
def backquoted (commands : Reader (Option Command)) (isQuoted : Bool) (fuel : Nat) :
    Reader Expansion := do
  let text ← untilBackquote isQuoted fuel []
  let s ← get
  let inner := Source.ofText text true s.aliases s.nextDocument
  let (command, inner) ← commands.run { inner with active := s.active }
  set { s with
    documents := inner.documents ++ s.documents
    nextDocument := inner.nextDocument }
  return .output command

/-- The expansion of a script after a dollar sign and a parenthesis; `commands` reads a list of
commands and the parenthesis after it.  Documents that it still owes then stay empty. -/
def bracketed (commands : Reader (Option Command)) : Reader Expansion := do
  let owed := (← get).owed
  modify fun s => { s with owed := [] }
  let command ← commands
  modify fun s => { s with owed }
  return .output command

/-- The operator that a character stands for. -/
def operator? : Char → Option Operator
  | '-' => some .orElse
  | '+' => some .instead
  | '?' => some .required
  | '=' => some .assigned
  | _ => none

/-- The expansion after something in braces that is no parameter; `word` reads what is left. -/
def badExpansion (word : Bool → Reader Word) : Reader Expansion := do
  let _ ← word false
  return .bad

/-- The expansion after the name in braces; `word` reads the word after an operator, which is a
pattern or not. -/
def afterName (word : Bool → Reader Word) (name : Text) : Reader Expansion := do
  match ← takeJoined with
  | some '\x7d' => return .parameter name
  | some ':' =>
    match ← takeJoined with
    | some '\x7d' => return .parameter name
    | some c =>
      match operator? c with
      | some o => return .modified name true o (← word false)
      | none => badExpansion word
    | none => badExpansion word
  | some '%' =>
    let longest ← takeIf '%'
    return .modified name false (.withoutEnd longest) (← word true)
  | some '#' =>
    let longest ← takeIf '#'
    return .modified name false (.withoutStart longest) (← word true)
  | some c =>
    match operator? c with
    | some o => return .modified name false o (← word false)
    | none => badExpansion word
  | none => badExpansion word

/-- The name of a parameter, which is a run of digits or a name. -/
def name : Reader Text := do
  if (← peekJoined).any Char.isDigit then takeWhile Char.isDigit else takeWhile isNameChar

/-- The expansion after an opening brace and a number sign: a length, or the number of arguments
with an operator. -/
def afterNumberSign (word : Bool → Reader Word) : Reader Expansion := do
  match ← peekJoined with
  | none => badExpansion word
  | some c =>
    if isNameChar c then
      let name ← name
      if ← takeIf '\x7d' then return .length name else badExpansion word
    else if c = '\x7d' then afterName word ['#']
    else
      advance
      if (← peekJoined) = some '\x7d' then
        if isSpecial c then
          advance
          return .length [c]
        else badExpansion word
      else
        putBack c
        afterName word ['#']

/-- The expansion after an opening brace. -/
def braced (word : Bool → Reader Word) : Reader Expansion := do
  match ← peekJoined with
  | none => badExpansion word
  | some c =>
    if isNameChar c then afterName word (← name)
    else if c = '\x7d' then badExpansion word
    else
      advance
      if c = '#' then afterNumberSign word
      else if isSpecial c then afterName word [c]
      else badExpansion word

/-- The expansion after a dollar sign, or none where the dollar sign stands for itself. -/
def dollar? (commands : Reader (Option Command)) (arithmetic : Reader Word)
    (word : Bool → Reader Word) : Reader (Option Expansion) := do
  match ← peekJoined with
  | none => return none
  | some c =>
    if c = '(' then
      advance
      if ← takeIf '(' then return some (.arithmetic (← arithmetic))
      else return some (← bracketed commands)
    else if c = '\x7b' then
      advance
      return some (← braced word)
    else if isNameStart c then return some (.parameter (← takeWhile isNameChar))
    else if isSpecial c then
      advance
      return some (.parameter [c])
    else return none

/-- Takes the line of the delimiter of a document, if it comes next; it counts as a line even where
the script ends with it. -/
def takeDelimiter (owed : Owed) : Reader Bool := do
  if owed.stripsTabs then
    modify fun s => { s with text := s.text.dropWhile (· = '\t') }
  let s ← get
  if !s.isComplete && !s.text.contains '\n' then throw .incomplete
  let (line, rest) := s.text.span (· ≠ '\n')
  if line = owed.delimiter then
    set { s with text := rest.drop 1, line := s.line + 1 }
    return true
  else return false

/-- Takes a line that would be continued right after its tabs and is not, for only the lines before
tabs are. -/
def takeUnjoined : Reader Text := do
  let s ← get
  match s.text with
  | '\\' :: '\n' :: rest =>
    set { s with text := rest, line := s.line + 1 }
    return ['\\', '\n']
  | _ => return []

/-- How words are read. -/
structure WordRules where
  /-- Reads a list of commands. -/
  commands : Reader (Option Command)
  /-- Reads a list of commands and the parenthesis after it. -/
  closedCommands : Reader (Option Command)
  /-- Dollar signs and backquotes stand for themselves. -/
  isDelimiter : Bool

/-- The parts of a word, after those in `done` and the plain text in `run`, both the last first;
what ends the word is taken too, unless it is a delimiter.  `fuel` is more than the length of the
word. -/
def parts (rules : WordRules) : (fuel : Nat) → Setting → (run : Text) → (done : List Part) →
    Reader Word
  | 0, _, _, _ => throw .tooDeep
  | fuel + 1, setting, run, done => do
    let flushed (done : List Part) : List Part :=
      if run.isEmpty then done else .plain run.reverse :: done
    let goOn (c : Char) : Reader Word := parts rules fuel setting (c :: run) done
    let goOnAfter (p : Part) : Reader Word :=
      parts rules fuel setting [] (p :: flushed done)
    let whole (_ : Unit) : Word := (flushed done).reverse
    let sub (s : Setting) : Reader Word := parts rules fuel s [] []
    match ← peekJoined with
    | none =>
      match setting.missing? with
      | some message => fail message
      | none => return whole ()
    | some c =>
      if c = Source.aliasEnd && (match setting with | .outer => false | _ => true) then
        advance
        parts rules fuel setting run done
      else if c = '$' && !rules.isDelimiter then
        advance
        let word (isPattern : Bool) : Reader Word := sub (setting.ofWord isPattern)
        match ← dollar? rules.closedCommands (sub (.arithmetic 0)) word with
        | some e => goOnAfter (.expanded e)
        | none => goOn '$'
      else if c = '\x60' && !rules.isDelimiter then
        advance
        goOnAfter (.expanded (← backquoted rules.commands setting.isQuoted fuel))
      else if c = '\\' then
        advance
        match ← peek with
        | none => goOnAfter (.escaped ['\\'])
        | some e =>
          advance
          if !setting.isQuoted then goOnAfter (.escaped [e])
          else if setting.keepsBackslash e then
            parts rules fuel setting (e :: '\\' :: run) done
          else goOn e
      else
        match setting with
        | .outer =>
          if isDelimiter c then return whole ()
          else
            advance
            if c = '\'' then
              let text ← untilQuote fuel []
              goOnAfter (.quotation (if text.isEmpty then [] else [.plain text]))
            else if c = '"' then goOnAfter (.quotation (← sub (.quotes false)))
            else goOn c
        | .braces =>
          advance
          if c = '\x7d' then return whole ()
          else if c = '\'' then
            let text ← untilQuote fuel []
            goOnAfter (.quotation (if text.isEmpty then [] else [.plain text]))
          else if c = '"' then goOnAfter (.quotation (← sub (.quotes true)))
          else goOn c
        | .quotes _ =>
          advance
          if c = '"' then return whole () else goOn c
        | .quotedBraces _ =>
          advance
          if c = '\x7d' then return whole ()
          else if c = '"' then goOnAfter (.quotation (← sub (.quotes true)))
          else goOn c
        | .arithmetic depth =>
          advance
          if c = '(' then parts rules fuel (.arithmetic (depth + 1)) (c :: run) done
          else if c = ')' then
            if depth = 0 then
              if ← takeIf ')' then return whole () else goOn c
            else parts rules fuel (.arithmetic (depth - 1)) (c :: run) done
          else goOn c
        | .document owed =>
          advance
          if c = '\n' then
            let _ ← peekJoined
            if ← takeDelimiter owed then
              return (.plain (c :: run).reverse :: done).reverse
            else
              parts rules fuel setting ((← takeUnjoined).reverse ++ c :: run) done
          else goOn c

/-- The lines of a document in which nothing is expanded, after those in `taken`, the last first;
`fuel` is more than their number. -/
def rawLines (owed : Owed) : (fuel : Nat) → (taken : List Text) → Reader Text
  | 0, _ => throw .tooDeep
  | fuel + 1, taken => do
    if ← takeDelimiter owed then return taken.reverse.flatten
    else
      let s ← get
      if s.text.isEmpty then return taken.reverse.flatten
      else
        let (line, rest) := s.text.span (· ≠ '\n')
        set { s with text := rest.drop 1, line := s.line + (rest.take 1).length }
        rawLines owed fuel ((line ++ rest.take 1) :: taken)

/-- The document that is owed. -/
def document (rules : WordRules) (fuel : Nat) (owed : Owed) : Reader Word := do
  if !owed.expands then
    let text ← rawLines owed fuel []
    return if text.isEmpty then [] else [.plain text]
  else
    let _ ← peekJoined
    if ← takeDelimiter owed then return []
    else parts rules fuel (.document owed) (← takeUnjoined).reverse []

/-- Reads all documents that are owed. -/
def documents (rules : WordRules) (fuel : Nat) : List Owed → Reader Unit
  | [] => return
  | owed :: rest => do
    let word ← document rules fuel owed
    modify fun s => { s with documents := (owed.number, word) :: s.documents }
    documents rules fuel rest

end Reader

end TemplateMap.Shell
