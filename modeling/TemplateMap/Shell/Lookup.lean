import TemplateMap.Shell.Grammar
import TemplateMap.Shell.Settings

/-! Lookup of commands: what a name stands for, where programs are found, and how both are told. -/

namespace TemplateMap.Shell

/-- The names of the builtin commands that are not special. -/
def plainNames : List String :=
  ["[", "alias", "bg", "cd", "chdir", "command", "echo", "false", "fg", "getopts", "hash", "jobs",
    "kill", "printf", "pwd", "read", "test", "true", "type", "ulimit", "umask", "unalias", "wait"]

/-- Whether a name is that of a special builtin command. -/
def isSpecialName (name : Text) : Bool := specialNames.contains name.str

/-- Whether a name is that of a builtin command. -/
def isBuiltinName (name : Text) : Bool := isSpecialName name || plainNames.contains name.str

/-- The names of the builtin commands that programs come before where the search path says so. -/
def yieldingNames : List String :=
  ["[", "chdir", "echo", "hash", "printf", "pwd", "test", "type", "ulimit"]

/-- What a name stands for. -/
inductive Meaning
  | function (f : Function)
  /-- A function that the script at a path is to define. -/
  | unread (path : Text)
  | builtin
  /-- A program, with the number of the directory in the search path, if it was searched for. -/
  | program (index : Option Nat)
  | nothing

/-- The directories in a search path. -/
def pathDirectories : (path : Text) → List Text
  | [] => [[]]
  | c :: rest =>
    if c = ':' then [] :: pathDirectories rest
    else
      match pathDirectories rest with
      | [] => [[c]]
      | d :: ds => (c :: d) :: ds

/-- The path of a name in a directory of a search path. -/
def inDirectory (directory name : Text) : Text :=
  if directory.isEmpty then name else directory ++ '/' :: name

/-- What an entry of a search path holds instead of programs. -/
inductive PathMark
  | builtins
  | functions
  deriving DecidableEq

/-- An entry of a search path. -/
structure PathEntry where
  directory : Text
  mark : Option PathMark

/-- The mark at the start of a text behind a percent sign, if there is one, and the rest. -/
def pathMark? (t : Text) : Option (PathMark × Text) :=
  let after (word : String) (mark : PathMark) : Option (PathMark × Text) :=
    if word.toList.isPrefixOf t then
      let rest := t.drop word.length
      some (mark, if rest.head? = some '%' then rest.drop 1 else rest)
    else none
  (after "builtin" .builtins).or (after "func" .functions)

/-- The entry of a search path that a text writes: a mark stands before or after the directory. -/
def pathEntry (t : Text) : PathEntry :=
  let ahead := match t with
    | '%' :: rest => pathMark? rest
    | _ => none
  match ahead with
  | some (mark, directory) => ⟨directory, some mark⟩
  | none =>
    let (directory, rest) := t.span (· ≠ '%')
    match pathMark? (rest.drop 1) with
    | some (mark, _) => ⟨directory, some mark⟩
    | none => ⟨t, none⟩

/-- The entries of a search path. -/
def pathEntries (path : Text) : List PathEntry := (pathDirectories path).map pathEntry

/-- Whether a search path says where builtin commands come, and that is not first of all. -/
def defersBuiltins (path : Text) : Bool :=
  path.contains '%' &&
    0 < ((pathDirectories path).findIdx? fun t => "%builtin".toList.isPrefixOf t).getD 0

/-- The paths under which a program is searched for; the entries with a mark have none. -/
def candidates (path name : Text) : List (Option Text) :=
  (pathEntries path).map fun entry =>
    if entry.mark.isSome then none else some (inDirectory entry.directory name)

/-- The search path that every system has. -/
def standardPath : Text :=
  "/usr/local/sbin:/usr/local/bin:/usr/sbin:/usr/bin:/sbin:/bin".toList

/-- Why a command cannot be started, in words. -/
def startFailure (e : IoError) : String :=
  match e with
  | .notFound | .notADirectory => "not found"
  | e => e.reason

/-- The number of a table's row in which a name is kept. -/
def row (rows : Nat) (name : Text) : Nat :=
  (name.foldl (fun sum c => sum + c.toNat) ((name.head?.getD '\x00').toNat * 16)) % 32768 % rows

/-- Entries with names in the order of the rows of a table; entries of one row are in the order in
which they came, the last first. -/
def inRows {α : Type} (rows : Nat) (entries : List (Text × α)) : List (Text × α) :=
  (List.range rows).flatMap fun n => entries.reverse.filter fun (name, _) => row rows name = n

/-- The command that text in quotes reads back as, and its name. -/
def aliasText (name value : Text) : Text := name ++ '=' :: quotedValue value ++ ['\n']

namespace Act

/-- What is looked for in a search path. -/
structure Sought where
  name : Text
  /-- It is a builtin command. -/
  isBuiltin : Bool
  /-- It can be a function. -/
  canBeFunction : Bool

/-- Searches for a name in the entries of a path, the first having the number `index`; `failure` is
why it was not found so far. -/
def searchFrom (fs : FileSystem) (here : Place) (x : Sought) (index : Nat) (failure : IoError) :
    List PathEntry → Except IoError Meaning
  | [] => .error failure
  | entry :: rest =>
    let goOn (failure : IoError) : Except IoError Meaning :=
      searchFrom fs here x (index + 1) failure rest
    if entry.mark = some .builtins then if x.isBuiltin then .ok .builtin else goOn failure
    else if entry.mark = some .functions && !x.canBeFunction then goOn failure
    else
      let path := inDirectory entry.directory x.name
      match fs.resolveFrom here (Latin1.toText path) with
      | .error .notFound | .error .notADirectory => goOn failure
      | .error e => goOn e
      | .ok place =>
        match fs.node? place, entry.mark with
        | none, _ => goOn failure
        | some .program, none => .ok (.program (some index))
        | some .program, some _ | some (.file _), some _ => .ok (.unread path)
        | some _, _ => goOn .permissionDenied

/-- Searches for a name in a path, and tells with `complains` why it is not found; with `tracks` a
program is kept in mind. -/
def search (path : Text) (x : Sought) (complains tracks : Bool) : Act Meaning := do
  let m ← get
  match searchFrom (← files) m.directory x 0 .notFound (pathEntries path) with
  | .ok found =>
    match found with
    | .program (some index) =>
      if tracks then modify fun m => { m with tracked := (x.name, index) :: m.tracked }
    | _ => pure ()
    return found
  | .error e =>
    if complains then warn (x.name ++ ": ".toList ++ (startFailure e).toList)
    return .nothing

/-- Whether a name is that of a builtin command that is one wherever programs are. -/
def isFixedBuiltin (name : Text) : Act Bool := do
  return isBuiltinName name &&
    !(yieldingNames.contains name.str && defersBuiltins (← get).searchPath)

/-- What a name stands for; with `functions` it may be that of a function.  A path other than that
of the shell can be given. -/
def meaning (name : Text) (functions : Bool) (path : Option Text) (complains : Bool) :
    Act Meaning := do
  let m ← get
  if name.contains '/' then return .program none
  match if functions then m.functions.lookup name else none with
  | some f => return .function f
  | none =>
    if (← isFixedBuiltin name) || (path.isSome && isBuiltinName name) then return .builtin
    else
      match path, m.tracked.lookup name with
      | none, some index =>
        set { m with stale := m.stale.filter (· ≠ name) }
        return .program (some index)
      | _, _ =>
        search (path.getD m.searchPath) ⟨name, isBuiltinName name, functions⟩ complains path.isNone

/-- Whether there is something at a path. -/
def exists? (path : Text) : Act Bool := do
  let m ← get
  return ((← files).lookFrom? m.directory (Latin1.toText path)).isSome

/-- Tells what a name stands for, in words or only shortly. -/
def describe (name : Text) (path : Option Text) (inWords : Bool) : Act Nat := do
  let m ← get
  let tell (words : String) (short : Text) : Act Nat := do
    print ((if inWords then name ++ words.toList else short) ++ ['\n'])
    return 0
  if keywords.contains name.str then tell " is a shell keyword" name
  else
    match m.aliases.lookup name with
    | some value =>
      if inWords then
        print (name ++ " is an alias for ".toList ++ value ++ ['\n'])
      else print ("alias ".toList ++ aliasText name value)
      return 0
    | none =>
      let tracked := if path.isNone then m.tracked.lookup name else none
      let isTracked := tracked.isSome
      let found ← match tracked with
        | some index => pure (Meaning.program (some index))
        | none => meaning name true path false
      match found with
      | .function _ | .unread _ => tell " is a shell function" name
      | .builtin =>
        tell (if isSpecialName name then " is a special shell builtin" else " is a shell builtin")
          name
      | .program index =>
        let isThere ← match index with
          | none => exists? name
          | some _ => pure true
        if !isThere then
          if inWords then print (name ++ ": not found\n".toList)
          return 127
        else
          let place := match index with
            | none => name
            | some i => (((candidates (path.getD m.searchPath) name)[i]?).join).getD name
          let words := if isTracked then " is a tracked alias for " else " is "
          print ((if inWords then name ++ words.toList else []) ++ place ++ ['\n'])
          return 0
      | .nothing =>
        if inWords then print (name ++ ": not found\n".toList)
        return 127

/-- The command that tells what names stand for. -/
def typeCommand (arguments : List Text) : Act Nat := do
  let mut status := 0
  for name in arguments do
    status := max status (← describe name none true)
  return status

/-- The command that runs another one, as far as it only tells what a name stands for. -/
def commandCommand (arguments : List Text) : Act Nat := do
  let (options, rest) ← letters "pvV" arguments
  let has (c : Char) : Bool := options.any (·.1 = c)
  match rest with
  | name :: _ =>
    if has 'v' || has 'V' then
      describe name (if has 'p' then some standardPath else none) (has 'V')
    else return 0
  | [] => return 0

/-- The command that shows or forgets where programs are, or searches for some. -/
def hashCommand (arguments : List Text) : Act Nat := do
  let (options, names) ← letters "r" arguments
  let m ← get
  if !options.isEmpty then
    set { m with tracked := [], stale := [] }
    return 0
  else if names.isEmpty then
    for (name, index) in inRows 31 m.tracked do
      let mark := if m.stale.contains name then ['*'] else []
      print ((((candidates m.searchPath name)[index]?).join).getD name ++ mark ++ ['\n'])
    return 0
  else
    let mut status := 0
    for name in names do
      modify fun m => { m with tracked := m.tracked.filter (·.1 ≠ name) }
      match ← meaning name true none true with
      | .nothing => status := 1
      | _ => pure ()
    return status

/-- The command that shows aliases and makes new ones. -/
def aliasCommand (arguments : List Text) : Act Nat := do
  let m ← get
  if arguments.isEmpty then
    for (name, value) in inRows 39 m.aliases do
      print (aliasText name value)
  let mut status := 0
  for a in arguments do
    let (before, after) := (a.drop 1).span (· ≠ '=')
    let name := a.take 1 ++ before
    match after with
    | [] =>
      match (← get).aliases.lookup name with
      | some value => print (aliasText name value)
      | none =>
        complain ("alias: ".toList ++ name ++ " not found\n".toList)
        status := 1
    | _ :: value =>
      modify fun m =>
        let aliases :=
          if (m.aliases.lookup name).isSome then
            m.aliases.map fun (n, v) => if n = name then (n, value) else (n, v)
          else (name, value) :: m.aliases
        { m with aliases }
  return status

/-- The command that takes aliases away. -/
def unaliasCommand (arguments : List Text) : Act Nat := do
  let (options, names) ← letters "a" arguments
  if !options.isEmpty then
    modify fun m => { m with aliases := [] }
    return 0
  let mut status := 0
  for name in names do
    let m ← get
    if (m.aliases.lookup name).isSome then
      set { m with aliases := m.aliases.filter (·.1 ≠ name) }
    else
      complain ("unalias: ".toList ++ name ++ " not found\n".toList)
      status := 1
  return status

end Act

end TemplateMap.Shell
