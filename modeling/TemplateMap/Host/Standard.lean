import TemplateMap.Config.Json
import TemplateMap.Execution
import TemplateMap.Shell.Session
import TemplateMap.System.World
import TemplateMap.Tool.Command
import TemplateMap.ToolCommand

/-! The host that the program runs on: configurations are JSON, commands have the words that a shell
gives them, and a few standard programs stand for all that a system can launch.  It is a stand-in to
run the program with; what is proved of executions is proved of every host. -/

namespace TemplateMap.Host

open Tool (Moment)
open TemplateMap.System (Resource Start World)

/-- Why arguments cannot be handed to a program, if they cannot. -/
def argumentError? (arguments : List Text) : Option IoError :=
  if arguments.any fun a => a.contains '\x00' then some .nulInArgument else none

/-- The place of the program that a word names: a path, or a name that is searched for. -/
def programPlace (files : FileSystem) (word : Text) : Except IoError Place := do
  if word.contains '/' then
    let place ← files.resolve word
    match files.node? place with
    | some .program => return place
    | some _ => throw .permissionDenied
    | none => throw .notFound
  else if FileSystem.programNames.contains word.str then
    return [FileSystem.root, "usr".toList, "bin".toList, word]
  else if word = ['.'] || word = ['.', '.'] then throw .permissionDenied
  else if FileSystem.maxName < (Utf8.encode word).length then throw .nameTooLong
  else throw .notFound

/-- The variables that a program is given. -/
def environment : List (Text × Text) :=
  [("PATH".toList, Shell.standardPath), ("HOME".toList, "/root".toList)]

/-- What a program starts with that is given a word for its name and arguments. -/
def startOf (word : Text) (arguments : List Text) : Start :=
  { name := Latin1.ofText word
    arguments := arguments.map Latin1.ofText
    environment := environment.map fun (name, value) => (Latin1.ofText name, Latin1.ofText value)
    directory := [] }

/-- The place of the program that a word names, if it can be given the arguments. -/
def startPlace (files : FileSystem) (word : Text) (arguments : List Text) :
    Except IoError Place := do
  match argumentError? (word :: arguments) with
  | some e => throw e
  | none =>
    let place ← programPlace files word
    let stack := Resource.stack.standard.soft
    if (startOf word arguments).fits (Latin1.ofText word) stack then return place
    else throw .argumentsTooLong

/-- How many calls a program may make in all. -/
def maxCalls : Nat := 1000000000000000

/-- The world after a program has run up to a moment, as far as an output of `limit` bytes shows
it. -/
def worldAfter (files : FileSystem) (place : Place) (word : Text) (arguments : List Text)
    (limit : Nat) (horizon : Moment) : World :=
  (World.start files limit (Shell.taskAt place (startOf word arguments))).run horizon maxCalls

/-- What a program with arguments does, if it can be launched. -/
def launch : Tool.Launcher := fun files program arguments limit horizon => do
  let place ← startPlace files program arguments
  let world := worldAfter files place program arguments limit horizon
  return ⟨world.trace, world.files⟩

/-- The host of the program. -/
def standard : Host where
  readConfig := Config.ofText
  words? := ToolCommand.words?
  tool config := Tool.ofConfig launch config none

end TemplateMap.Host
