import TemplateMap.Shell.Variable

/-! Settings of a shell: the letters after hyphens that commands take, the options that are on or
off, and the arguments of the script. -/

namespace TemplateMap.Shell

/-- Whether a letter is one of those that a command knows: all but the colons among them, each of
which says that a value follows the letter before it. -/
def isKnownLetter (known : Text) (c : Char) : Bool := c ≠ ':' && known.contains c

/-- Whether a value follows a letter. -/
def takesValue (known : Text) (c : Char) : Bool :=
  (known.dropWhile (· ≠ c)).drop 1 |>.head? |> (· = some ':')

/-- The options in the letters of one argument with their values, and the last one if its value is
the next argument. -/
def lettersIn (known : Text) : Text → Except Text (List (Char × Text) × Option Char)
  | [] => .ok ([], none)
  | c :: rest =>
    if !isKnownLetter known c then .error ("Illegal option -".toList ++ [c])
    else if takesValue known c then
      .ok (if rest.isEmpty then ([], some c) else ([(c, rest)], none))
    else do
      let (found, last) ← lettersIn known rest
      return ((c, []) :: found, last)

/-- The options at the start of arguments with their values, and the arguments after them. -/
def lettersOf (known : Text) (arguments : List Text) :
    Except Text (List (Char × Text) × List Text) :=
  match arguments with
  | [] => .ok ([], [])
  | ['-', '-'] :: rest => .ok ([], rest)
  | ('-' :: c :: letters) :: rest => do
    match ← lettersIn known (c :: letters), rest with
    | (found, none), rest =>
      let (others, rest) ← lettersOf known rest
      return (found ++ others, rest)
    | (_, some last), [] => .error ("No arg for -".toList ++ [last] ++ " option".toList)
    | (found, some last), value :: rest =>
      let (others, rest) ← lettersOf known rest
      return (found ++ (last, value) :: others, rest)
  | arguments => .ok ([], arguments)
termination_by arguments.length

/-- The options with names, and the letters that they have; those of the last two cannot be used. -/
def namedOptions : List (String × Char) :=
  [("errexit", 'e'), ("noglob", 'f'), ("ignoreeof", 'I'), ("interactive", 'i'), ("monitor", 'm'),
    ("noexec", 'n'), ("stdin", 's'), ("xtrace", 'x'), ("verbose", 'v'), ("vi", 'V'),
    ("emacs", 'E'), ("noclobber", 'C'), ("allexport", 'a'), ("notify", 'b'), ("nounset", 'u'),
    ("privileged", 'p'), ("nolog", '1'), ("debug", '2')]

/-- The letters of all options. -/
def allOptions : Text := namedOptions.map Prod.snd

/-- The letters of options that can be used. -/
def optionChars : Text := allOptions.filter Char.isAlpha

/-- What reading the options of a shell gives besides. -/
structure SettingsReading where
  /-- The arguments after the options. -/
  rest : List Text
  /-- The arguments become those of the script even if there are none. -/
  replaces : Bool
  /-- A script among the arguments has been asked for. -/
  hasScript : Bool

namespace Act

/-- The options at the start of arguments with their values, and the arguments after them. -/
def letters (known : String) (arguments : List Text) : Act (List (Char × Text) × List Text) := do
  match lettersOf known.toList arguments with
  | .ok found => return found
  | .error message => fail message

/-- The arguments after the options of a command that takes none. -/
def operands (arguments : List Text) : Act (List Text) := do
  return (← letters "" arguments).2

/-- Turns an option on or off. -/
def setOption (letter : Char) (isOn : Bool) : Act Unit :=
  modify fun m =>
    let others := m.options.filter fun c =>
      c ≠ letter && !(isOn && (letter = 'V' && c = 'E' || letter = 'E' && c = 'V'))
    { m with
      options := if isOn then letter :: others else others
      undecided := m.undecided.filter (· ≠ letter) }

/-- Shows all options; those that are undecided are shown as if they were on. -/
def showOptions (isOn : Bool) : Act Unit := do
  let m ← get
  if isOn then print "Current option settings\n".toList
  for (name, letter) in namedOptions do
    let state := m.options.contains letter || m.undecided.contains letter
    if isOn then
      print (name.toList ++ List.replicate (16 - name.length) ' ' ++
        (if state then "on\n" else "off\n").toList)
    else print ((if state then "set -o " else "set +o ") ++ name ++ "\n").toList

/-- Turns the option with a name on or off. -/
def setNamedOption (name : Text) (isOn : Bool) : Act Unit := do
  match namedOptions.lookup name.str with
  | some letter =>
    modify fun m =>
      let others := m.options.filter (· ≠ letter)
      { m with
        options := if isOn then letter :: others else others
        undecided := m.undecided.filter (· ≠ letter) }
  | none => fail ("Illegal option -o ".toList ++ name)

/-- Turns on or off what the letters of one argument ask for, with the arguments after it; gives
those that are left, and whether a script has been asked for. -/
def setLetters (atStart isOn : Bool) : Text → (rest : List Text) → (hasScript : Bool) →
    Act (List Text × Bool)
  | [], rest, hasScript => return (rest, hasScript)
  | c :: letters, rest, hasScript => do
    if c = 'c' && atStart then setLetters atStart isOn letters rest true
    else if c = 'l' && atStart then setLetters atStart isOn letters rest hasScript
    else if c = 'o' then
      match rest with
      | [] => showOptions isOn
      | name :: _ => setNamedOption name isOn
      setLetters atStart isOn letters (rest.drop 1) hasScript
    else if optionChars.contains c then
      setOption c isOn
      setLetters atStart isOn letters rest hasScript
    else fail ("Illegal option -".toList ++ [c])

/-- Turns on and off what arguments ask for; `fuel` is more than their number. -/
def setAll (atStart : Bool) : (fuel : Nat) → (hasScript : Bool) → List Text → Act SettingsReading
  | 0, hasScript, arguments => return ⟨arguments, false, hasScript⟩
  | fuel + 1, hasScript, arguments => do
    match arguments with
    | ['-'] :: rest =>
      unless atStart do
        setOption 'x' false
        setOption 'v' false
      return ⟨rest, false, hasScript⟩
    | ['-', '-'] :: rest => return ⟨rest, true, hasScript⟩
    | ('-' :: letters) :: rest =>
      let (rest, hasScript) ← setLetters atStart true letters rest hasScript
      setAll atStart fuel hasScript rest
    | ('+' :: letters) :: rest =>
      let (rest, hasScript) ← setLetters atStart false letters rest hasScript
      setAll atStart fuel hasScript rest
    | _ => return ⟨arguments, false, hasScript⟩

/-- Turns off what needs a terminal. -/
def checkTerminal : Act Unit := do
  if ← option 'm' then
    setOption 'm' false
    warn "can't access tty; job control turned off".toList

/-- Gives the script other arguments. -/
def setArguments (arguments : List Text) : Act Unit :=
  modify fun m => { m with arguments, cursor := ⟨1, none⟩ }

/-- The command that sets options and arguments, which it is given. -/
def setCommand (arguments : List Text) : Act Nat := do
  let asks := (← get).asks
  let found ← setAll false (arguments.length + 1) false arguments
  if (← get).asks ≠ asks then settleSignals
  checkTerminal
  if found.replaces || !found.rest.isEmpty then setArguments found.rest
  return 0

/-- The command that takes the first arguments of the script away. -/
def shiftCommand (arguments : List Text) : Act Nat := do
  let count ← match arguments with
    | [] => pure 1
    | n :: _ => natural n
  let m ← get
  if m.arguments.length < count then fail "can't shift that many".toList
  setArguments (m.arguments.drop count)
  return 0

/-- What the next letter among arguments is and where the reading of them then is. -/
structure NextLetter where
  letter : Char
  value : Option Text
  cursor : OptionCursor
  /-- There are no more letters. -/
  isAtEnd : Bool
  /-- A message, where messages are wanted. -/
  message : Text

/-- The next letter among arguments. -/
def nextLetter (known : Text) (arguments : List Text) (cursor : OptionCursor) : NextLetter :=
  let isSilent := known.head? = some ':'
  let before : Option Text :=
    match cursor.offset with
    | some n => if 1 < cursor.index then (arguments[cursor.index - 2]?).map (List.drop n) else none
    | none => none
  let word : Option (Text × Nat) :=
    match before with
    | some (c :: rest) => some (c :: rest, cursor.index)
    | _ =>
      match arguments[cursor.index - 1]? with
      | some ('-' :: c :: rest) => some (c :: rest, cursor.index + 1)
      | _ => none
  match word with
  | none => ⟨'?', none, ⟨cursor.index, none⟩, true, []⟩
  | some (letters, index) =>
    if letters = ['-'] && cursor.index < index then ⟨'?', none, ⟨index, none⟩, true, []⟩ else
    let c := letters.headD '?'
    let rest := letters.drop 1
    let length := ((arguments[index - 2]?).map List.length).getD 0
    let offset : Option Nat := some (length - rest.length)
    if !isKnownLetter known c then
      if isSilent then ⟨'?', some [c], ⟨index, offset⟩, false, []⟩
      else
        ⟨'?', none, ⟨index, offset⟩, false, "Illegal option -".toList ++ [c, '\n']⟩
    else if takesValue known c then
      if !rest.isEmpty then ⟨c, some rest, ⟨index, none⟩, false, []⟩
      else
        match arguments[index - 1]? with
        | some value => ⟨c, some value, ⟨index + 1, none⟩, false, []⟩
        | none =>
          if isSilent then ⟨':', some [c], ⟨index, offset⟩, false, []⟩
          else
            ⟨'?', none, ⟨index, offset⟩, false,
              "No arg for -".toList ++ [c] ++ " option\n".toList⟩
    else ⟨c, some [], ⟨index, offset⟩, false, []⟩

/-- The command that reads options of a script one by one. -/
def getoptsCommand (arguments : List Text) : Act Nat := do
  match arguments with
  | known :: name :: given =>
    let m ← get
    let list := if given.isEmpty then m.arguments else given
    let cursor := if list.length + 1 < m.cursor.index then ⟨1, none⟩ else m.cursor
    let next := nextLetter known list cursor
    unless next.isAtEnd do
      match next.value with
      | some value => setVariable "OPTARG".toList (some value) false false
      | none =>
        complain next.message
        unset "OPTARG".toList
    let m ← get
    let old := m.lookup? "OPTIND".toList
    set (m.setVariable "OPTIND".toList
      (some ⟨some (Text.ofNat next.cursor.index), old.any Variable.isExported,
        old.any Variable.isReadOnly⟩))
    assign name [next.letter]
    modify fun m => { m with cursor := next.cursor }
    return if next.isAtEnd then 1 else 0
  | _ => fail "Usage: getopts optstring var [arg...]".toList

end Act

end TemplateMap.Shell
