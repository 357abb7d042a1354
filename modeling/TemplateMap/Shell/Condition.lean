import TemplateMap.Shell.Variable

/-! Conditions: what the command that tests its arguments reads them as, and whether it holds. -/

namespace TemplateMap.Shell

/-- How two arguments are compared. -/
inductive Comparison
  | sameText
  | otherText
  | lessText
  | greaterText
  | equal
  | unequal
  | greater
  | greaterEqual
  | less
  | lessEqual
  | newer
  | older
  | sameFile

/-- An argument in a condition. -/
inductive Condition.Mark
  /-- A property of the argument after it. -/
  | property (letter : Char)
  | comparison (c : Comparison)
  | negation
  | both
  | either
  | opening
  | closing

namespace Condition

/-- The comparisons by their names. -/
def comparisons : List (String × Comparison) :=
  [("=", .sameText), ("!=", .otherText), ("<", .lessText), (">", .greaterText),
    ("-eq", .equal), ("-ne", .unequal), ("-gt", .greater), ("-ge", .greaterEqual),
    ("-lt", .less), ("-le", .lessEqual), ("-nt", .newer), ("-ot", .older), ("-ef", .sameFile)]

/-- The letters of properties. -/
def properties : Text := "rwxefdcbpugskhLSznOGt".toList

/-- What an argument is when it stands alone. -/
def mark? (t : Text) : Option Mark :=
  match comparisons.lookup t.str with
  | some c => some (.comparison c)
  | none =>
    match t with
    | ['!'] => some .negation
    | ['('] => some .opening
    | [')'] => some .closing
    | ['-', 'a'] => some .both
    | ['-', 'o'] => some .either
    | ['-', c] => if properties.contains c then some (.property c) else none
    | _ => none

/-- Whether an argument compares the ones around it. -/
def compares (t : Text) : Bool :=
  match mark? t with
  | some (.comparison _) => true
  | _ => false

/-- Whether an argument that names a property is only a text, by what comes after it. -/
def isText : List Text → Bool
  | [] => true
  | [_] => false
  | next :: _ => compares next

/-- What the first of some arguments is; none for a text or where there are no arguments. -/
def first? (arguments : List Text) : Option Mark :=
  match arguments with
  | [] => none
  | t :: rest =>
    match mark? t with
    | some (.property c) => if isText rest then none else some (.property c)
    | some .opening => if rest.isEmpty then none else some .opening
    | found => found

end Condition

namespace Act

/-- What a path leads to, with its place. -/
def lookUp (path : Text) : Act (Option (Place × Node × Timestamp)) := do
  let m ← get
  let fs ← files
  match fs.resolveFrom m.directory (Latin1.toText path) with
  | .error _ => return none
  | .ok place =>
    return (fs.node? place).bind fun node =>
      (fs.changedAt? place).map fun time => (place, node, time)

/-- Whether an argument has a property. -/
def hasProperty (letter : Char) (t : Text) : Act Bool := do
  match letter with
  | 'z' => return t.isEmpty
  | 'n' => return !t.isEmpty
  | 't' =>
    let _ ← integer false t
    return false
  | 'h' | 'L' =>
    let m ← get
    return (← files).endsInLink m.directory (Latin1.toText t)
  | _ =>
    match ← lookUp t with
    | none => return false
    | some (place, node, _) =>
      return match letter, node with
        | 'f', .file _ => true
        | 'f', .program => true
        | 'd', .directory => true
        | 'c', .device _ => true
        | 's', .file content => !content.isEmpty
        | 's', .device _ => false
        | 's', .pipe _ => false
        | 'p', .pipe _ => true
        | 'k', _ => place = FileSystem.stickyPlace
        | 's', _ => true
        | 'x', .directory => true
        | 'x', .program => true
        | 'e', _ => true
        | 'r', _ => true
        | 'w', _ => true
        | 'O', _ => true
        | 'G', _ => true
        | _, _ => false

/-- Whether a comparison of two arguments holds. -/
def compare (c : Comparison) (a b : Text) : Act Bool := do
  let numbers (holds : Int → Int → Bool) : Act Bool := do
    let n ← integer false a
    return holds n (← integer false b)
  let found (holds : Place × Timestamp → Place × Timestamp → Bool) : Act Bool := do
    match ← lookUp a, ← lookUp b with
    | some (place, _, time), some (place', _, time') => return holds (place, time) (place', time')
    | _, _ => return false
  let codes (t : Text) : List Nat := t.map Char.toNat
  match c with
  | .sameText => return a = b
  | .otherText => return a ≠ b
  | .lessText => return codes a < codes b
  | .greaterText => return codes b < codes a
  | .equal => numbers fun m n => m = n
  | .unequal => numbers fun m n => m ≠ n
  | .greater => numbers fun m n => n < m
  | .greaterEqual => numbers fun m n => n ≤ m
  | .less => numbers fun m n => m < n
  | .lessEqual => numbers fun m n => m ≤ n
  | .newer => found fun x y => y.2.isBefore x.2
  | .older => found fun x y => x.2.isBefore y.2
  | .sameFile => found fun x y => x.1 = y.1

/-- Gives up because a condition cannot be read. -/
def failCondition {α : Type} (subject : Text) (message : String) : Act α :=
  if subject.isEmpty then fail message.toList else failAbout subject message

mutual

/-- Conditions of which one must hold; gives whether it does, and the arguments from the last one
that was read on.  `fuel` bounds how deep conditions lie in one another, and their number. -/
def anyOf (fuel : Nat) (arguments : List Text) : Act (Bool × List Text) :=
  match fuel with
  | 0 => fail "too deep".toList
  | fuel + 1 => do
    let (holds, rest) ← allOf fuel arguments
    match Condition.first? (rest.drop 1) with
    | some .either =>
      let (others, rest) ← anyOf fuel (rest.drop 2)
      return (holds || others, rest)
    | _ => return (holds, rest)

/-- Conditions all of which must hold. -/
def allOf (fuel : Nat) (arguments : List Text) : Act (Bool × List Text) :=
  match fuel with
  | 0 => fail "too deep".toList
  | fuel + 1 => do
    let (holds, rest) ← oneOf fuel arguments
    match Condition.first? (rest.drop 1) with
    | some .both =>
      let (others, rest) ← allOf fuel (rest.drop 2)
      return (holds && others, rest)
    | _ => return (holds, rest)

/-- A condition that may be negated. -/
def oneOf (fuel : Nat) (arguments : List Text) : Act (Bool × List Text) :=
  match fuel with
  | 0 => fail "too deep".toList
  | fuel + 1 => do
    match Condition.first? arguments with
    | some .negation =>
      match arguments.drop 1 with
      | [] => return (true, arguments)
      | rest =>
        let (holds, rest) ← oneOf fuel rest
        return (!holds, rest)
    | mark => simpleCondition fuel mark arguments

/-- A condition that begins with a mark or a text. -/
def simpleCondition (fuel : Nat) (mark : Option Condition.Mark) (arguments : List Text) :
    Act (Bool × List Text) :=
  match fuel with
  | 0 => fail "too deep".toList
  | fuel + 1 => do
    match arguments, mark with
    | [], _ => return (false, [])
    | _ :: rest, some .opening =>
      match Condition.first? rest with
      | some .closing => return (false, rest)
      | _ =>
        let (holds, rest) ← anyOf fuel rest
        match Condition.first? (rest.drop 1) with
        | some .closing => return (holds, rest.drop 1)
        | _ => fail "closing paren expected".toList
    | t :: rest, some (.property letter) =>
      match rest with
      | [] => failCondition t "argument expected"
      | value :: _ => return (← hasProperty letter value, rest)
    | t :: rest, _ =>
      match rest, Condition.first? rest with
      | operator :: rest, some (.comparison c) =>
        match rest with
        | [] => failCondition operator "argument expected"
        | other :: _ => return (← compare c t other, rest)
      | _, _ => return (!t.isEmpty, t :: rest)

end

/-- Whether arguments hold as a condition; `negated` tells that it was negated so far.  `fuel` is
more than their number. -/
def condition (negated : Bool) : (fuel : Nat) → List Text → Act Bool
  | 0, _ => fail "too deep".toList
  | fuel + 1, arguments => do
    let depth := 4 * arguments.length + 8
    let whole (asText : Bool) (arguments : List Text) : Act Bool := do
      let (holds, rest) ←
        if asText then simpleCondition depth none arguments else anyOf depth arguments
      match rest with
      | last :: _ :: _ => failCondition last "unexpected operator"
      | _ => return holds ≠ negated
    let count := arguments.length
    if count = 0 then return negated
    else if count = 3 && ((arguments[1]?).any Condition.compares) then whole true arguments
    else if count = 3 || count = 4 then
      if arguments.head? = some ['('] && arguments.getLast? = some [')'] then
        whole false ((arguments.drop 1).dropLast)
      else if arguments.head? = some ['!'] then condition true fuel (arguments.drop 1)
      else whole false arguments
    else whole false arguments

/-- The command that tests its arguments. -/
def testCommand (name : Text) (arguments : List Text) : Act Nat := do
  let arguments ←
    if name = ['['] then
      if arguments.getLast? = some [']'] then pure arguments.dropLast
      else fail "missing ]".toList
    else pure arguments
  return if ← condition false (arguments.length + 1) arguments then 0 else 1

end Act

end TemplateMap.Shell
