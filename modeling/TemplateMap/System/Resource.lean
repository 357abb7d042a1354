import TemplateMap.FileSystem

/-! Resources that processes use up, and the bounds on them: one that holds, and one up to which a
process can raise it. -/

namespace TemplateMap.System

/-- What processes use up. -/
inductive Resource
  /-- Time of computing, in seconds. -/
  | time
  /-- The size of a file, in bytes. -/
  | file
  | data
  | stack
  /-- The size of what is kept of a process that was ended, in bytes. -/
  | remains
  | resident
  | locked
  | processes
  | descriptors
  | addresses
  | locks
  | priority
  deriving DecidableEq

/-- Bounds on a resource; none is no bound. -/
structure Bounds where
  soft : Option Nat
  hard : Option Nat

namespace Bounds

/-- Whether a bound is not above another one. -/
def isWithin : Option Nat → Option Nat → Bool
  | _, none => true
  | none, some _ => false
  | some m, some n => m ≤ n

/-- The bounds after a change to other ones, or why they cannot be changed so. -/
def changed (old new : Bounds) : Except IoError Bounds :=
  if !isWithin new.soft new.hard then .error .invalidArgument
  else if !isWithin new.hard old.hard then .error .notPermitted
  else .ok new

end Bounds

namespace Resource

/-- The bounds that hold at first. -/
def standard : Resource → Bounds
  | .stack => ⟨some 8388608, none⟩
  | .remains => ⟨some 0, none⟩
  | .locked => ⟨some 8388608, some 8388608⟩
  | .processes => ⟨some 128604, some 128604⟩
  | .descriptors => ⟨some 20000, some 20000⟩
  | .priority => ⟨some 0, some 0⟩
  | _ => ⟨none, none⟩

end Resource

end TemplateMap.System
