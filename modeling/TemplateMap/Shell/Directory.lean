import TemplateMap.Shell.Lookup

/-! The working directory of a shell and the mask for new files: the commands that show and change
them. -/

namespace TemplateMap.Shell

/-- The absolute path of a place. -/
def absoluteText (place : Place) : Text :=
  let working := FileSystem.workingPlace
  let names :=
    if place.head? = some FileSystem.root then place.drop 1
    else
      let (ups, below) := place.span (· = FileSystem.up)
      (working.drop 1).take (working.length - 1 - ups.length) ++ below
  if names.isEmpty then ['/'] else names.flatMap fun name => '/' :: name

/-- The path, shown, that pieces lead to from a path whose last name comes first. -/
def followed (names : List Text) : List Text → List Text
  | [] => names
  | piece :: rest =>
    if piece.isEmpty || piece = ['.'] then followed names rest
    else if piece = FileSystem.up then followed (names.drop 1) rest
    else followed (piece :: names) rest

/-- The path, shown, that a path leads to from a directory; two slashes at its start are kept. -/
def pathFrom (directory path : Text) : Text :=
  let isAbsolute := path.head? = some '/'
  let start := if isAbsolute then path else directory
  let isDouble := start.take 2 = ['/', '/'] && start[2]? ≠ some '/'
  let names := followed (if isAbsolute then [] else followed [] (Path.pieces directory))
    (Path.pieces path)
  let shown := names.reverse.flatMap fun name => '/' :: name
  (if isDouble then ['/'] else []) ++ (if shown.isEmpty then ['/'] else shown)

/-- The permissions in a mask, in the order in which they are shown, for a class of users. -/
def permissionText (mask shift : Nat) : Text :=
  let lacks (bit : Nat) : Bool := (mask / Nat.pow 2 (shift + bit)) % 2 = 1
  (if lacks 2 then [] else ['r']) ++ (if lacks 1 then [] else ['w']) ++
    (if lacks 0 then [] else ['x'])

/-- The permissions of all classes of users that a mask leaves. -/
def maskText (mask : Nat) : Text :=
  "u=".toList ++ permissionText mask 6 ++ ",g=".toList ++ permissionText mask 3 ++
    ",o=".toList ++ permissionText mask 0 ++ ['\n']

/-- The permissions of a class of users, as one number. -/
def permissionsAt (permissions shift : Nat) : Nat := permissions / Nat.pow 2 shift % 8

/-- The permissions that letters name, which may be those of a class of users. -/
def namedPermissions (permissions : Nat) (letters : Text) : Nat :=
  match letters with
  | ['u'] => permissionsAt permissions 6
  | ['g'] => permissionsAt permissions 3
  | ['o'] => permissionsAt permissions 0
  | _ => (if letters.contains 'r' then 4 else 0) + (if letters.contains 'w' then 2 else 0) +
      (if letters.contains 'x' then 1 else 0)

/-- The permissions after one change for the classes of users that letters name. -/
def changedPermissions (classes : Text) (operator : Char) (named permissions : Nat) : Nat :=
  let isChanged (c : Char) : Bool := classes.isEmpty || classes.contains 'a' || classes.contains c
  let change (c : Char) (shift : Nat) : Nat :=
    let old := permissionsAt permissions shift
    let new := if !isChanged c then old
      else if operator = '=' then named
      else if operator = '+' then old ||| named
      else old &&& (7 - named)
    new * Nat.pow 2 shift
  change 'u' 6 + change 'g' 3 + change 'o' 0

/-- The permissions after the changes that one clause names, if it can be read; `fuel` is more than
its length. -/
def afterOperators? (classes : Text) : (fuel : Nat) → (permissions : Nat) → Text → Option Nat
  | 0, _, _ => none
  | _ + 1, permissions, [] => some permissions
  | fuel + 1, permissions, operator :: rest =>
    if "+-=".toList.contains operator then
      let (letters, rest) :=
        match rest with
        | 'u' :: rest => (['u'], rest)
        | 'g' :: rest => (['g'], rest)
        | 'o' :: rest => (['o'], rest)
        | rest => rest.span fun c => "rwx".toList.contains c
      afterOperators? classes fuel
        (changedPermissions classes operator (namedPermissions permissions letters) permissions)
        rest
    else none

/-- The permissions after all changes that a text names, if it can be read. -/
def afterClauses? (permissions : Nat) : List Text → Option Nat
  | [] => some permissions
  | clause :: rest => do
    let (classes, operators) := clause.span fun c => "ugoa".toList.contains c
    let permissions ← afterOperators? classes (operators.length + 1) permissions operators
    afterClauses? permissions rest

/-- The pieces of a text between commas. -/
def clausesOf : Text → List Text
  | [] => [[]]
  | c :: rest =>
    if c = ',' then [] :: clausesOf rest
    else
      match clausesOf rest with
      | [] => [[c]]
      | first :: others => (c :: first) :: others

namespace Act

/-- Whether the last one of some letters asks for the directory itself, not the way to it. -/
def isPhysical (options : List (Char × Text)) : Bool :=
  (options.getLast?).any fun (c, _) => c = 'P'

/-- Changes the working directory; gives whether that is possible. -/
def enter (path : Text) (physical : Bool) : Act Bool := do
  let m ← get
  let shown := pathFrom m.directoryText path
  let target := if physical then path else shown
  let fs ← files
  match fs.resolveFrom m.directory (Latin1.toText target) with
  | .error _ => return false
  | .ok place =>
    match fs.node? place with
    | some .directory =>
      let text := if physical then absoluteText place else shown
      setVariable "OLDPWD".toList (some m.directoryText) true false
      modify fun m => { m with
        directory := place, directoryText := text, stale := m.tracked.map Prod.fst }
      setVariable "PWD".toList (some text) true false
      return true
    | _ => return false

/-- Whether a path leads to a directory. -/
def isDirectory (path : Text) : Act Bool := do
  let m ← get
  match (← files).lookFrom? m.directory (Latin1.toText path) with
  | some .directory => return true
  | _ => return false

/-- The command that changes the working directory. -/
def cdCommand (arguments : List Text) : Act Nat := do
  let (options, rest) ← letters "LP" arguments
  let m ← get
  let value (name : String) : Text := (m.value? name.toList).getD []
  let (path, shows) := match rest with
    | [] => (value "HOME", false)
    | ['-'] :: _ => (value "OLDPWD", true)
    | path :: _ => (path, false)
  let pieces := Path.pieces path
  let isDirect := path.head? = some '/' || pieces.head? = some ['.'] ||
    pieces.head? = some FileSystem.up
  let path := if path.isEmpty then ['.'] else path
  let prefixes := match m.value? "CDPATH".toList with
    | some t => if isDirect then [] else pathDirectories t
    | none => []
  let found ← prefixes.filterM fun d => isDirectory (inDirectory d path)
  let (target, shows) := match found with
    | [] => (path, shows)
    | d :: _ => (inDirectory d path, shows || !d.isEmpty)
  if ← enter target (isPhysical options) then
    if shows then print ((← get).directoryText ++ ['\n'])
    return 0
  else fail ("can't cd to ".toList ++ path)

/-- The command that shows the working directory. -/
def pwdCommand (arguments : List Text) : Act Nat := do
  let (options, _) ← letters "LP" arguments
  let m ← get
  print ((if isPhysical options then absoluteText m.directory else m.directoryText) ++ ['\n'])
  return 0

/-- The command that shows or sets the mask for new files. -/
def umaskCommand (arguments : List Text) : Act Nat := do
  let (options, rest) ← letters "S" arguments
  let m ← get
  match rest with
  | [] =>
    let digits := Nat.toDigits 8 m.mask
    print (if options.isEmpty then List.replicate (4 - digits.length) '0' ++ digits ++ ['\n']
      else maskText m.mask)
  | t :: _ =>
    if t.head?.any Char.isDigit then
      if t.all Integer.isOctalDigit then
        set { m with mask := Integer.ofDigits 8 t % 512 }
      else badNumber t
    else
      match afterClauses? (511 - m.mask) (clausesOf t) with
      | some permissions => set { m with mask := 511 - permissions }
      | none => fail ("Illegal mode: ".toList ++ t)
  return 0

end Act

end TemplateMap.Shell
