import TemplateMap.Shell.Word

/-! Scripts read into commands, one complete command after the other. -/

namespace TemplateMap.Shell

/-- The words that have a meaning where a command begins. -/
def keywords : List String :=
  ["!", "case", "do", "done", "elif", "else", "esac", "fi", "for", "if", "in", "then", "until",
    "while", "\x7b", "\x7d"]

/-- The text of a word without quotes and expansions. -/
def plainText? : Word → Option Text
  | [.plain t] => some t
  | [] => some []
  | _ => none

/-- The text of a word without expansions, and whether a part of it is quoted. -/
def literal : Word → Text × Bool
  | [] => ([], false)
  | p :: rest =>
    let (t, quoted) := literal rest
    match p with
    | .plain u => (u ++ t, quoted)
    | .escaped u => (u ++ t, true)
    | .quotation parts => (parts.flatMap plainOf ++ t, true)
    | .expanded _ => (t, quoted)
where
  /-- The text of a part in quotes. -/
  plainOf : Part → Text
    | .plain t | .escaped t => t
    | _ => []

namespace Token

/-- How a message names a token. -/
def shown : Token → String
  | .endOfInput => "end of file"
  | .newline => "newline"
  | .semicolon => "\";\""
  | .ampersand => "\"&\""
  | .both => "\"&&\""
  | .either => "\"||\""
  | .pipe => "\"|\""
  | .opening => "\"(\""
  | .closing => "\")\""
  | .endOfArm => "\";;\""
  | .redirection .. => "redirection"
  | .word _ => "word"
  | .keyword name => "\"" ++ name ++ "\""

/-- Whether a list of commands may end before a token. -/
def endsList : Token → Bool
  | .endOfInput | .closing | .endOfArm => true
  | .keyword name =>
    ["do", "done", "elif", "else", "esac", "fi", "then", "\x7d"].contains name
  | _ => false

/-- Whether a token is a certain keyword. -/
def isKeyword (name : String) : Token → Bool
  | .keyword other => other = name
  | _ => false

/-- The word that a token is where keywords have no meaning. -/
def toWord : Token → Word
  | .word w => w
  | .keyword name => [.plain name.toList]
  | _ => []

end Token

/-- What is looked for in the next token. -/
structure Lookout where
  /-- Line ends are skipped. -/
  skipsLines : Bool
  keywords : Bool
  aliases : Bool

namespace Lookout

/-- Nothing is looked for. -/
def nothing : Lookout := ⟨false, false, false⟩

/-- What is looked for where a command begins. -/
def command : Lookout := ⟨false, true, true⟩

/-- What is looked for where a command begins that may stand on a later line. -/
def laterCommand : Lookout := ⟨true, true, true⟩

/-- What is looked for before the patterns of an arm. -/
def arm : Lookout := ⟨true, true, false⟩

end Lookout

/-- Which list of commands is read. -/
inductive ListKind
  /-- The commands up to the end of a line. -/
  | line
  /-- One or more commands before what closes them. -/
  | block
  /-- Any number of commands before what closes them. -/
  | optional
  deriving DecidableEq

namespace Reader

/-- Skips what is left of a line. -/
def skipComment : Reader Unit := do
  let s ← get
  let (skipped, rest) := s.text.span (· ≠ '\n')
  if rest.isEmpty && !s.isComplete then throw .incomplete
  let isMark (c : Char) : Bool := c = Source.aliasEnd || c = Source.blankEnd
  set { s with text := rest, active := s.active.drop (skipped.filter isMark).length }

/-- Skips blanks and comments; `fuel` is more than the number of blanks. -/
def skipBlanks : (fuel : Nat) → Reader (Option Char)
  | 0 => throw .tooDeep
  | fuel + 1 => do
    match ← peekJoined with
    | some c =>
      if c = ' ' || c = '\t' || c = Source.aliasEnd then
        advance
        skipBlanks fuel
      else if c = '#' then
        skipComment
        skipBlanks fuel
      else return some c
    | none => return none

/-- The redirection whose operator comes next. -/
def redirectionToken (descriptor : Option Nat) : Reader Token := do
  if ← takeIf '>' then
    let kind : RedirectionKind ←
      if ← takeIf '>' then pure (.file .extension)
      else if ← takeIf '|' then pure (.file .forced)
      else if ← takeIf '&' then pure .copy
      else pure (.file .output)
    return .redirection (descriptor.getD 1) kind
  else
    advance
    let kind : RedirectionKind ←
      if ← takeIf '<' then pure (.document (← takeIf '-'))
      else if ← takeIf '&' then pure .copy
      else if ← takeIf '>' then pure (.file .both)
      else pure (.file .input)
    return .redirection (descriptor.getD 0) kind

/-- The token that comes next, whatever is looked for; `fuel` is more than its length. -/
def plainToken (rules : WordRules) (fuel : Nat) : Reader Token := do
  match ← skipBlanks fuel with
  | none => return .endOfInput
  | some '\n' => advance; return .newline
  | some '&' => advance; return if ← takeIf '&' then .both else .ampersand
  | some '|' => advance; return if ← takeIf '|' then .either else .pipe
  | some ';' => advance; return if ← takeIf ';' then .endOfArm else .semicolon
  | some '(' => advance; return .opening
  | some ')' => advance; return .closing
  | some _ =>
    let word ← parts rules fuel .outer [] []
    let after ← if word.isEmpty then peekJoined else
      (match word with
      | [.plain [_]] => peekJoined
      | _ => pure none)
    if after = some '<' || after = some '>' then
      match word with
      | [] => redirectionToken none
      | [.plain [d]] =>
        if d.isDigit then redirectionToken (some (d.toNat - '0'.toNat)) else return .word word
      | _ => return .word word
    else return .word word

/-- The token that was put back, or else the one that comes next. -/
def anyToken (rules : WordRules) (fuel : Nat) : Reader Token := do
  let s ← get
  match s.pending with
  | some t =>
    set { s with pending := none }
    return t
  | none => plainToken rules fuel

/-- The next token after line ends, with the documents that are owed at them. -/
def tokenAfterLines (rules : WordRules) (depth : Nat) : (fuel : Nat) → Reader Token
  | 0 => throw .tooDeep
  | fuel + 1 => do
    match ← anyToken rules depth with
    | .newline =>
      let owed := (← get).owed
      modify fun s => { s with owed := [] }
      documents rules depth owed
      tokenAfterLines rules depth fuel
    | t => return t

/-- Takes the next token, which becomes the last one; `fuel` is more than the number of aliases that
are replaced. -/
def token (rules : WordRules) (depth : Nat) (lookout : Lookout) : (fuel : Nat) → Reader Token
  | 0 => throw .tooDeep
  | fuel + 1 => do
    let t ← if lookout.skipsLines then tokenAfterLines rules depth depth
      else anyToken rules depth
    let s ← get
    let aliases := lookout.aliases || s.afterBlank
    set { s with afterBlank := false, last := t }
    let some name := (match t with
      | .word w => plainText? w
      | _ => none) | return t
    if lookout.keywords && keywords.contains name.str then
      modify fun s => { s with last := .keyword name.str }
      return .keyword name.str
    else if aliases && !s.active.contains name then
      match s.aliases.lookup name with
      | some value =>
        unless value.isEmpty do modify fun s => s.push name value
        token rules depth lookout fuel
      | none => return t
    else return t

/-- Puts the last token back. -/
def putBackToken : Reader Unit := modify fun s => { s with pending := some s.last }

/-- Gives up because the last token does not fit. -/
def unexpected {α : Type} (expected : Option String) : Reader α := do
  let wanted := match expected with
    | some e => " (expecting " ++ e ++ ")"
    | none => ""
  fail ((← get).last.shown ++ " unexpected" ++ wanted)

/-- Reads the documents that are owed. -/
def owedDocuments (rules : WordRules) (fuel : Nat) : Reader Unit := do
  let owed := (← get).owed
  modify fun s => { s with owed := [] }
  documents rules fuel owed

/-- What a word after a redirection that copies a descriptor names. -/
def copyTarget (word : Word) : Target :=
  match word with
  | [.plain ['-']] => .closed
  | [.plain [d]] => if d.isDigit then .copy (d.toNat - '0'.toNat) else .named word
  | _ => .named word

/-- The redirection after its operator. -/
def redirection (rules : WordRules) (fuel descriptor : Nat) (kind : RedirectionKind) :
    Reader Redirection := do
  let rules := match kind with
    | .document _ => { rules with isDelimiter := true }
    | _ => rules
  match ← token rules fuel .nothing fuel with
  | .word word =>
    match kind with
    | .file mode => return .of descriptor (.file mode word)
    | .copy => return .of descriptor (copyTarget word)
    | .document stripsTabs =>
      let s ← get
      let (delimiter, quoted) := literal word
      let owed : Owed := ⟨s.nextDocument, delimiter, !quoted, stripsTabs⟩
      set { s with owed := s.owed ++ [owed], nextDocument := s.nextDocument + 1 }
      return .of descriptor (.document owed.number)
  | _ => unexpected none

/-- The command after which nothing was to be read; it does nothing. -/
def emptyCommand : Command := .simple 0 [] [] []

/-- The command that runs in the background. -/
def inBackground (line : Nat) : Command → Command
  | .pipeline stages _ => .pipeline stages true
  | .redirected line body redirections => .background line body redirections
  | c => .background line c []

/-- The command with redirections after it. -/
def redirectedCommand (line : Nat) (c : Command) (redirections : List Redirection) : Command :=
  if redirections.isEmpty then c
  else
    match c with
    | .subshell line body _ => .subshell line body redirections
    | c => .redirected line c redirections

/-- Redirections, as many as come next. -/
def redirections (rules : WordRules) (depth : Nat) : (fuel : Nat) → Reader (List Redirection)
  | 0 => throw .tooDeep
  | fuel + 1 => do
    match ← token rules depth .command depth with
    | .redirection descriptor kind =>
      let r ← redirection rules depth descriptor kind
      return r :: (← redirections rules depth fuel)
    | _ =>
      putBackToken
      return []

/-- Words, as many as come next. -/
def wordList (rules : WordRules) (depth : Nat) : (fuel : Nat) → Reader (List Word)
  | 0 => throw .tooDeep
  | fuel + 1 => do
    match ← token rules depth .nothing depth with
    | .word w => return w :: (← wordList rules depth fuel)
    | _ => return []

/-- The patterns of an arm from a token on, and the token after them. -/
def patterns (rules : WordRules) (depth : Nat) : (fuel : Nat) → Token → Reader (List Word)
  | 0, _ => throw .tooDeep
  | fuel + 1, first => do
    match ← token rules depth .nothing depth with
    | .pipe =>
      let next ← token rules depth .nothing depth
      return first.toWord :: (← patterns rules depth fuel next)
    | .closing => return [first.toWord]
    | _ => unexpected (some "\")\"")

/-- How many tokens, characters or levels one step of reading may take. -/
def maxDepth : Nat := 1000000

/-- The token that was put back last. -/
def pendingToken : Reader Token := do
  let s ← get
  set { s with pending := none }
  return s.pending.getD .endOfInput

/-- The commands before the last token and another one. -/
def andThen (before : Option Command) (c : Command) : Command :=
  match before with
  | some b => .sequence b c
  | none => c

/-- Takes a keyword, which must come next. -/
def keyword (rules : WordRules) (name : String) (lookout : Lookout) : Reader Unit := do
  unless (← token rules maxDepth lookout maxDepth).isKeyword name do
    unexpected (some ("\"" ++ name ++ "\""))

mutual

/-- The rules of words in commands; `fuel` bounds how deep commands lie in one another. -/
def rulesAt : (fuel : Nat) → WordRules
  | 0 => ⟨throw .tooDeep, throw .tooDeep, false⟩
  | fuel + 1 =>
    { isDelimiter := false
      commands := fun s => (do return (← list fuel .optional none).join : Reader _) s
      closedCommands := fun s => (do
        let command := (← list fuel .optional none).join
        match ← pendingToken with
        | .closing => return command
        | _ => unexpected (some "\")\"") : Reader _) s }

/-- The commands up to the end of a list, after others that are part of it; none at the end of the
script. -/
def list (fuel : Nat) (kind : ListKind) (before : Option Command) :
    Reader (Option (Option Command)) :=
  match fuel with
  | 0 => throw .tooDeep
  | fuel + 1 => do
    let rules := rulesAt fuel
    let finish : Reader (Option (Option Command)) := do
      owedDocuments rules maxDepth
      return if before.isNone && kind = .line then none else some before
    let t ← token rules maxDepth
      (if kind = .line then .command else .laterCommand) maxDepth
    match t with
    | .newline =>
      owedDocuments rules maxDepth
      return some before
    | .endOfInput =>
      putBackToken
      finish
    | t =>
      putBackToken
      if t.endsList && (kind = .optional || (kind = .block && before.isSome)) then
        return some before
      else
        let c ← andOr fuel .nothing
        let t ← token rules maxDepth .nothing maxDepth
        match t with
        | .ampersand =>
          list fuel kind (some (andThen before (inBackground (← get).line c)))
        | .semicolon => list fuel kind (some (andThen before c))
        | .newline | .endOfInput =>
          putBackToken
          list fuel kind (some (andThen before c))
        | _ =>
          if kind = .line then unexpected none
          else
            putBackToken
            return some (some (andThen before c))

/-- Pipelines, each of which depends on those before it. -/
def andOr (fuel : Nat) (lookout : Lookout) : Reader Command :=
  match fuel with
  | 0 => throw .tooDeep
  | fuel + 1 => do andOrAfter fuel (← pipeline fuel lookout)

/-- Pipelines after others that they depend on. -/
def andOrAfter (fuel : Nat) (before : Command) : Reader Command :=
  match fuel with
  | 0 => throw .tooDeep
  | fuel + 1 => do
    match ← token (rulesAt fuel) maxDepth .nothing maxDepth with
    | .both => andOrAfter fuel (.both before (← pipeline fuel .laterCommand))
    | .either => andOrAfter fuel (.either before (← pipeline fuel .laterCommand))
    | _ =>
      putBackToken
      return before

/-- Commands between pipes, with a mark that negates them. -/
def pipeline (fuel : Nat) (lookout : Lookout) : Reader Command :=
  match fuel with
  | 0 => throw .tooDeep
  | fuel + 1 => do
    if (← token (rulesAt fuel) maxDepth lookout maxDepth).isKeyword "!" then
      return .negated (← stages fuel (← command fuel .command))
    else
      putBackToken
      stages fuel (← command fuel .nothing)

/-- The commands after the first one of a pipeline. -/
def stages (fuel : Nat) (first : Command) : Reader Command :=
  match fuel with
  | 0 => throw .tooDeep
  | fuel + 1 => do
    match ← laterStages fuel with
    | [] => return first
    | rest => return .pipeline (first :: rest) false

/-- The commands after pipes, as many as come next. -/
def laterStages (fuel : Nat) : Reader (List Command) :=
  match fuel with
  | 0 => throw .tooDeep
  | fuel + 1 => do
    match ← token (rulesAt fuel) maxDepth .nothing maxDepth with
    | .pipe =>
      let c ← command fuel .laterCommand
      return c :: (← laterStages fuel)
    | _ =>
      putBackToken
      return []

/-- A list that is not empty before what closes it. -/
def block (fuel : Nat) : Reader Command :=
  match fuel with
  | 0 => throw .tooDeep
  | fuel + 1 => do return (← list fuel .block none).join.getD emptyCommand

/-- What follows the test and the first part of a condition. -/
def otherwise (fuel : Nat) : Reader (Option Command) :=
  match fuel with
  | 0 => throw .tooDeep
  | fuel + 1 => do
    let rules := rulesAt fuel
    match ← token rules maxDepth .nothing maxDepth with
    | .keyword "elif" =>
      let test ← block fuel
      keyword rules "then" .nothing
      let yes ← block fuel
      return some (.conditional test yes (← otherwise fuel))
    | .keyword "else" => return some (← block fuel)
    | _ =>
      putBackToken
      return none

/-- The arms of a choice, from a token on. -/
def arms (fuel : Nat) (first : Token) : Reader (List (List Word × Option Command)) :=
  match fuel with
  | 0 => throw .tooDeep
  | fuel + 1 => do
    if first.isKeyword "esac" then return []
    let rules := rulesAt fuel
    let first ← match first with
      | .opening => token rules maxDepth .nothing maxDepth
      | t => pure t
    let words ← patterns rules maxDepth maxDepth first
    let body := (← list fuel .optional none).join
    match ← token rules maxDepth .arm maxDepth with
    | .keyword "esac" => return [(words, body)]
    | .endOfArm =>
      let next ← token rules maxDepth .arm maxDepth
      return (words, body) :: (← arms fuel next)
    | _ => unexpected (some "\";;\"")

/-- The words, the redirections and the assignments of a simple command; or a function. -/
def simple (fuel line : Nat) (lookout : Lookout) (assignments : List (Text × Word))
    (words : List Word) (given : List Redirection) : Reader Command :=
  match fuel with
  | 0 => throw .tooDeep
  | fuel + 1 => do
    let rules := rulesAt fuel
    let finish : Reader Command := do
      putBackToken
      return .simple line assignments.reverse words.reverse given.reverse
    match ← token rules maxDepth lookout maxDepth with
    | .word w =>
      match lookout.aliases, assignment? w with
      | true, some a => simple fuel line lookout (a :: assignments) words given
      | _, _ => simple fuel line .nothing assignments (w :: words) given
    | .redirection descriptor kind =>
      let r ← redirection rules maxDepth descriptor kind
      simple fuel line lookout assignments words (r :: given)
    | .opening =>
      match assignments, words, given with
      | [], [w], [] =>
        match ← token rules maxDepth .nothing maxDepth with
        | .closing =>
          let name := (plainText? w).getD []
          if !isName name || specialNames.contains name.str then fail "Bad function name"
          let line := (← get).line
          return .define line name (← command fuel .laterCommand)
        | _ => unexpected (some "\")\"")
      | _, _, _ => finish
    | _ => finish

/-- A loop over words, after its keyword. -/
def each (fuel line : Nat) : Reader Command :=
  match fuel with
  | 0 => throw .tooDeep
  | fuel + 1 => do
    let rules := rulesAt fuel
    let name ← match ← token rules maxDepth .nothing maxDepth with
      | .word [.plain t] => pure t
      | _ => pure []
    unless isName name do fail "Bad for loop variable"
    let words ← match ← token rules maxDepth .laterCommand maxDepth with
      | .keyword "in" => do
        let words ← wordList rules maxDepth maxDepth
        match (← get).last with
        | .newline | .semicolon => pure words
        | _ => unexpected none
      | .semicolon => pure [[.quotation [.expanded (.parameter ['@'])]]]
      | _ => do
        putBackToken
        pure [[.quotation [.expanded (.parameter ['@'])]]]
    keyword rules "do" .laterCommand
    let body ← block fuel
    keyword rules "done" .nothing
    return .each line name words body

/-- A choice, after its keyword. -/
def choice (fuel line : Nat) : Reader Command :=
  match fuel with
  | 0 => throw .tooDeep
  | fuel + 1 => do
    let rules := rulesAt fuel
    let word ← match ← token rules maxDepth .nothing maxDepth with
      | .word w => pure w
      | _ => unexpected (some "word")
    keyword rules "in" .laterCommand
    return .choice line word (← arms fuel (← token rules maxDepth .arm maxDepth))

/-- A command. -/
def command (fuel : Nat) (lookout : Lookout) : Reader Command :=
  match fuel with
  | 0 => throw .tooDeep
  | fuel + 1 => do
    let rules := rulesAt fuel
    let line := (← get).line
    let withRedirections (c : Command) : Reader Command := do
      return redirectedCommand line c (← redirections rules maxDepth maxDepth)
    let loop (untilSuccess : Bool) : Reader Command := do
      let test ← block fuel
      keyword rules "do" .nothing
      let body ← block fuel
      keyword rules "done" .nothing
      withRedirections (.loop untilSuccess test body)
    match ← token rules maxDepth lookout maxDepth with
    | .keyword "if" =>
      let test ← block fuel
      keyword rules "then" .nothing
      let yes ← block fuel
      let no ← otherwise fuel
      keyword rules "fi" .nothing
      withRedirections (.conditional test yes no)
    | .keyword "while" => loop false
    | .keyword "until" => loop true
    | .keyword "for" => withRedirections (← each fuel line)
    | .keyword "case" => withRedirections (← choice fuel line)
    | .opening =>
      let body ← block fuel
      match ← token rules maxDepth .nothing maxDepth with
      | .closing => withRedirections (.subshell line body [])
      | _ => unexpected (some "\")\"")
    | .keyword "\x7b" =>
      let body ← block fuel
      keyword rules "\x7d" .nothing
      withRedirections body
    | .word _ | .redirection .. =>
      putBackToken
      simple fuel (← get).line ⟨false, false, true⟩ [] [] []
    | _ => unexpected none

end

end Reader

/-- What reading a source gives. -/
inductive Reading
  /-- A complete command, which may be empty, and whether the script ends after it. -/
  | command (c : Option Command) (isLast : Bool) (rest : Source)
  | ended (rest : Source)
  | fault (f : Fault)

/-- The next complete command of a source. -/
def readCommand (s : Source) : Reading :=
  match (Reader.list Reader.maxDepth .line none).run { s with pending := none, owed := [] } with
  | .error f => .fault f
  | .ok (none, rest) => .ended rest
  | .ok (some c, rest) =>
    let isLast := match rest.pending with
      | some .endOfInput => true
      | _ => false
    .command c isLast rest

end TemplateMap.Shell
