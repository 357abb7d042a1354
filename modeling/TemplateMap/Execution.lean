import TemplateMap.CommandLine
import TemplateMap.Report
import TemplateMap.Resolver

/-! Execution of invocations: the configuration is put together, the table is built and asked, and
the outcome is what is printed and an exit code. -/

namespace TemplateMap

/-- What an execution needs besides the files: a reader for the text of a configuration, a splitter
for the words of a command, and the tool that a configuration calls for. -/
structure Host where
  readConfig : Text → Except Text Config
  words? : Text → Option (List Text)
  tool : Config → Tool

/-- Why an execution has no report. -/
inductive ExecutionError
  | nothingAsked
  | configFile (path : Path) (error : ConfigFileError)
  | toolOption (error : ConfigError)
  | defaultTool (error : ConfigError)
  | mapping (error : MappingError)
  /-- The extension of generated sources is none that a path can have. -/
  | extension (error : Path.ExtensionError)

/-- What the outside sees of an execution. -/
structure Outcome where
  exit : Nat
  output : Text
  /-- What is printed beside the output. -/
  messages : Text
  deriving DecidableEq

namespace ExecutionError

/-- The first part of the message, without the cause behind it. -/
def headline : ExecutionError → Text
  | .nothingAsked =>
    ("Nothing to do: give at least one --forward, --reverse or --dump\n\n" ++
      "Run 'jspmap --help' for more options").toList
  | .configFile path _ => "Failed to load config ".toList ++ path
  | .toolOption _ => "Invalid --tool".toList
  | .defaultTool e => e.message
  | .mapping e => e.message
  | .extension (.holdsSeparator given) =>
    "extension cannot contain path separators: ".toList ++ given.quoted

/-- The message with the cause behind it. -/
def message (e : ExecutionError) : Text :=
  match e with
  | .configFile _ cause => e.headline ++ ": ".toList ++ cause.message
  | .toolOption cause => e.headline ++ ": ".toList ++ cause.message
  | _ => e.headline

/-- Whether the first part of a message says that nothing was asked, in any letter case.  Of letters
outside ASCII only a capital i with a dot and the kelvin sign have lower forms with ASCII letters in
them; the dot that stays behind the i and the k keep both out of the phrase. -/
def saysNothingAsked (headline : Text) : Bool :=
  occursIn "nothing to do".toList headline.asciiLower

/-- The exit code of an execution without a report: 3 for an artifact without a table, and else 2 or
1 by what the first part of the message says. -/
def exitCode (e : ExecutionError) : Nat :=
  match e with
  | .mapping (.notFound _) => 3
  | .extension _ => 101
  | _ => if saysNothingAsked e.headline then 2 else 1

end ExecutionError

namespace Invocation

/-- The tool where neither the configuration nor the command line names one. -/
def defaultTool : Text := "javap -v".toList

/-- The configuration in the file that an invocation names, or the standard one. -/
def loaded (i : Invocation) (host : Host) (files : FileSystem) : Except ExecutionError Config :=
  match i.config with
  | some path => (Config.load host.readConfig files path).mapError (.configFile path)
  | none => .ok Config.standard

/-- A configuration with the tool that an invocation names; without one it keeps its own, or is
given the default one. -/
def withTool (i : Invocation) (host : Host) (config : Config) : Except ExecutionError Config :=
  match i.tool with
  | some tool => (config.withToolCommand host.words? tool).mapError .toolOption
  | none =>
    if config.toolCommand.isEmpty then
      (config.withToolCommand host.words? defaultTool).mapError .defaultTool
    else .ok config

/-- The configuration of an invocation: the file, if one is named, and the options over it. -/
def configuration (i : Invocation) (host : Host) (files : FileSystem) :
    Except ExecutionError Config := do
  let config ← i.withTool host (← i.loaded host files)
  return { config with toolTimeout := i.timeout.getD config.toolTimeout }

/-- The artifact of an invocation. -/
def artifact (i : Invocation) (config : Config) : Except ExecutionError Artifact := do
  let artifact ← (Artifact.ofCompiled i.compiled config.sourceExtension).mapError .extension
  return { artifact with generated := i.source.getD artifact.generated }

/-- The files that an execution with a configuration may read: the artifact, its source, and what
the tool is given. -/
def filesNeeded (i : Invocation) (config : Config) : List Path :=
  let source := match i.artifact config with
    | .ok artifact => [artifact.generated]
    | .error _ => []
  i.compiled :: source ++ config.toolCommand

/-- The table of an invocation. -/
def table (i : Invocation) (host : Host) (files : FileSystem) :
    Except ExecutionError TierTable := do
  if i.asksNothing then throw .nothingAsked
  let config ← i.configuration host files
  let artifact ← i.artifact config
  let template := Template.ofPath i.template
  let build := (Resolver.new config).build files artifact template (host.tool config)
  let handle ← build.outcome.mapError .mapping
  return handle.content

/-- The answers to queries, up to the first one without an answer. -/
def answers (query : Int → Except MappingError Answer) (lines : List Int) :
    Except ExecutionError (List Answered) :=
  lines.mapM fun line => do return ⟨line, ← (query line).mapError .mapping⟩

/-- The report that a table makes for an invocation. -/
def report (i : Invocation) (source : TierTable) : Except ExecutionError Report := do
  let forward ← answers source.forward i.forward
  let reverse ← answers source.reverse i.reverse
  return { artifact := i.compiled, template := (Template.ofPath i.template).name, source
           dump := i.dump, forward, reverse }

/-- The message of an execution without a report, as it is printed. -/
def errorLine (e : ExecutionError) : Text := "error: ".toList ++ e.message ++ ['\n']

/-- The warning that a table is only an estimate, as it is printed. -/
def warningLine : Text :=
  "warning: no mapping data found, line numbers are estimates\n".toList

/-- What the outside sees of an invocation. -/
def execute (i : Invocation) (host : Host) (files : FileSystem) : Outcome :=
  match i.table host files with
  | .error e => ⟨e.exitCode, [], errorLine e⟩
  | .ok source =>
    let warning := if !i.quiet && source.tier.isApproximate then warningLine else []
    match i.report source with
    | .error e => ⟨e.exitCode, [], warning ++ errorLine e⟩
    | .ok report => ⟨0, report.printed i.json i.quiet, warning⟩

end Invocation

/-- The exit code of arguments that make no invocation: asking for help is no mistake. -/
def UsageError.exitCode (e : UsageError) : Nat := if e = .helpRequested then 0 else 2

end TemplateMap
