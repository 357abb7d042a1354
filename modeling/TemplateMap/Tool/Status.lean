import TemplateMap.Text.Basic

/-! Exit statuses: how a program ended, by a code of its own or by a signal. -/

namespace TemplateMap.Tool

/-- How a program ended. -/
inductive Status
  | code (value : Nat)
  | signal (number : Nat)
  deriving DecidableEq, Repr

/-- The signals in the order of their numbers, from 1 on. -/
def signalNames : List String :=
  ["HUP", "INT", "QUIT", "ILL", "TRAP", "ABRT", "BUS", "FPE", "KILL", "USR1", "SEGV", "USR2",
    "PIPE", "ALRM", "TERM", "STKFLT", "CHLD", "CONT", "STOP", "TSTP", "TTIN", "TTOU", "URG",
    "XCPU", "XFSZ", "VTALRM", "PROF", "WINCH", "IO", "PWR", "SYS"]

/-- The name of a signal, if it has one. -/
def signalName? (number : Nat) : Option String :=
  if number = 0 then none else signalNames[number - 1]?

/-- The number of the signal with a name. -/
def signalNumber? (name : String) : Option Nat :=
  (signalNames.findIdx? (· == name)).map (· + 1)

namespace Status

/-- Whether the program ended well. -/
def isSuccess (s : Status) : Bool := s = .code 0

/-- How the program ended, in words. -/
def shown : Status → Text
  | .code value => "exit status: ".toList ++ Text.ofNat value
  | .signal number =>
    let name := match signalName? number with
      | some name => " (SIG" ++ name ++ ")"
      | none => ""
    "signal: ".toList ++ Text.ofNat number ++ name.toList

end Status

end TemplateMap.Tool
