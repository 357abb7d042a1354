import TemplateMap.Config
import TemplateMap.Extraction
import TemplateMap.Tool.Trace

/-! Tools that are commands: the program is launched on the artifact, what it does is a trace, and
the supervision of the trace gives its output or the reason why there is none.  What a program does
is left to whatever launches it. -/

namespace TemplateMap.Tool

/-- A program that has been launched: what it does, and the files as it leaves them. -/
structure Launched where
  trace : Trace
  files : FileSystem

/-- What launches programs: among files, by a name and with arguments, as far as an output of some
bytes shows what happens up to a moment. -/
abbrev Launcher :=
  FileSystem → (program : Text) → (arguments : List Text) → (limit : Nat) → (horizon : Moment) →
    Except IoError Launched

/-- When a supervision ends at the latest. -/
def horizon (timeout : Milliseconds) (cancel : Option Milliseconds) : Moment :=
  nanoseconds (match cancel with
    | some ms => min ms timeout
    | none => timeout)

/-- The tool that a command is: its words, how long it may take and how much it may write, and when
it is cancelled. -/
def ofCommand (launch : Launcher) (command : List Text) (timeout : Milliseconds) (limit : Nat)
    (cancel : Option Milliseconds) : Tool := fun files artifact =>
  match command with
  | [] => ⟨.error .noCommand, [], files⟩
  | program :: arguments =>
    if cancel = some 0 then ⟨.error (.cancelled program), [], files⟩
    else
      let log : Log := [.toolStarted program arguments artifact]
      match launch files program (arguments ++ [artifact]) limit (horizon timeout cancel) with
      | .error e => ⟨.error (.notStarted program e.message.toList), log, files⟩
      | .ok launched =>
        let terms : Terms := ⟨program, timeout, limit⟩
        match supervise terms (launched.trace.sightings terms cancel) with
        | some ending => ⟨ending.result, log, launched.files⟩
        | none => ⟨.error (.timedOut program timeout), log, launched.files⟩

/-- The tool of a configuration. -/
def ofConfig (launch : Launcher) (config : Config) (cancel : Option Milliseconds) : Tool :=
  ofCommand launch config.toolCommand config.toolTimeout config.maxToolOutput cancel

end TemplateMap.Tool
