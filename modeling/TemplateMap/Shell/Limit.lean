import TemplateMap.Shell.Settings

/-! Bounds on what processes use up: the command that shows and changes them. -/

namespace TemplateMap.Shell

open TemplateMap.System (Bounds Resource)

/-- A resource whose bounds a script can change: the letter for it, what it is called, and the size
of the unit in which its bounds are told. -/
structure LimitKind where
  letter : Char
  name : String
  unit : Nat
  resource : Resource

namespace LimitKind

/-- The kinds in the order in which they are shown. -/
def all : List LimitKind :=
  [⟨'t', "time(seconds)", 1, .time⟩, ⟨'f', "file(blocks)", 512, .file⟩,
    ⟨'d', "data(kbytes)", 1024, .data⟩, ⟨'s', "stack(kbytes)", 1024, .stack⟩,
    ⟨'c', "coredump(blocks)", 512, .remains⟩, ⟨'m', "memory(kbytes)", 1024, .resident⟩,
    ⟨'l', "locked memory(kbytes)", 1024, .locked⟩, ⟨'p', "process", 1, .processes⟩,
    ⟨'n', "nofiles", 1, .descriptors⟩, ⟨'v', "vmemory(kbytes)", 1024, .addresses⟩,
    ⟨'w', "locks", 1, .locks⟩, ⟨'r', "rtprio", 1, .priority⟩]

/-- That of the size of files. -/
def file : LimitKind := ⟨'f', "file(blocks)", 512, .file⟩

/-- The text of a bound in the unit of its kind. -/
def shown (k : LimitKind) (bound : Option Nat) : Text :=
  (match bound with
    | some n => Text.ofNat (n / k.unit)
    | none => "unlimited".toList) ++ ['\n']

/-- How many values a word holds. -/
def wordSize : Nat := 18446744073709551616

/-- The bound that a text writes, if it writes one; what is past a word is dropped, and the greatest
word is no bound. -/
def bound? (k : LimitKind) (t : Text) : Option (Option Nat) :=
  if t = "unlimited".toList then some none
  else if t.all Char.isDigit then
    let n := Text.digitsValue 0 t * k.unit % wordSize
    some (if n + 1 = wordSize then none else some n)
  else none

end LimitKind

namespace Act

/-- The bounds of the shell on a resource. -/
def boundsOn (resource : Resource) : Act Bounds := do
  match ← call (.bounds resource) with
  | .bounds b => return b
  | _ => return resource.standard

/-- The command that shows bounds on what processes use up, or changes one. -/
def ulimitCommand (arguments : List Text) : Act Nat := do
  let (options, rest) ← letters "HSatfdscmlpnvwr" arguments
  let chosen := options.map Prod.fst
  let side := (chosen.filter fun c => c = 'H' || c = 'S').getLast?
  let setsSoft := side ≠ some 'H'
  let setsHard := side ≠ some 'S'
  let shownOf (b : Bounds) : Option Nat := if setsSoft then b.soft else b.hard
  let named := chosen.reverse.findSome? fun c => LimitKind.all.find? fun k => k.letter = c
  let kind := named.getD .file
  let showsAll := chosen.contains 'a'
  match rest with
  | [] =>
    if showsAll then
      for k in LimitKind.all do
        print (k.name.toList ++ List.replicate (20 - k.name.length) ' ' ++
          ' ' :: k.shown (shownOf (← boundsOn k.resource)))
    else print (kind.shown (shownOf (← boundsOn kind.resource)))
    return 0
  | t :: others =>
    if showsAll || !others.isEmpty then fail "too many arguments".toList
    match kind.bound? t with
    | none => fail "bad number".toList
    | some bound =>
      let old ← boundsOn kind.resource
      let new : Bounds :=
        ⟨if setsSoft then bound else old.soft, if setsHard then bound else old.hard⟩
      match ← call (.setBounds kind.resource new) with
      | .failed e => fail ("error setting limit (".toList ++ e.reason.toList ++ [')'])
      | _ => return 0

end Act

end TemplateMap.Shell
