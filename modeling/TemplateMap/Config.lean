import TemplateMap.Failure
import TemplateMap.FileSystem
import TemplateMap.Number.Shortest

/-! Configuration: every choice that the ways to a table leave open, the rules for valid ones, and
how a file and a command line give them.  The format of the file and the words of a command are
left to a reader and a splitter. -/

namespace TemplateMap

/-- The choices. -/
structure Config where
  /-- The token that a blob starts with. -/
  blobStart : Text
  /-- The token that a blob ends with. -/
  blobEnd : Text
  /-- The header of the section that holds the blob in a tool's output. -/
  sectionHeader : Text
  /-- The tool and its arguments before the artifact. -/
  toolCommand : List Text
  toolTimeout : Milliseconds
  /-- The most bytes that a tool may write. -/
  maxToolOutput : Nat
  /-- The widest gap between annotated template lines that is filled. -/
  maxGap : Nat
  /-- The name of the method that holds the template's output. -/
  anchor : Text
  /-- How many generated lines one template line is taken to make. -/
  divisor : Nat
  /-- The most lines that a source is taken to have before the template's output. -/
  boilerplateLines : Nat
  /-- The share of the lines that a source is taken to have before the template's output. -/
  boilerplateFraction : Binary64
  /-- The extension of a generated source. -/
  sourceExtension : Text
  deriving DecidableEq

/-- Why a configuration is not valid. -/
inductive ConfigError
  | emptyBlobToken
  | zeroDivisor
  | fractionOutOfRange (fraction : Binary64)
  | zeroOutputLimit
  | unreadableToolCommand (command : Text)
  | emptyToolCommand
  deriving DecidableEq

/-- The message of an invalid configuration. -/
def ConfigError.message (e : ConfigError) : Text :=
  let what := match e with
    | .emptyBlobToken => "blob tokens must not be empty".toList
    | .zeroDivisor => "structural_divisor must be at least 1".toList
    | .fractionOutOfRange fraction =>
      "boilerplate_fraction must be within [0, 1], got ".toList ++ fraction.plain
    | .zeroOutputLimit => "max_tool_output_bytes must be positive".toList
    | .unreadableToolCommand command => "cannot parse tool command ".toList ++ command.quoted
    | .emptyToolCommand => "tool command is empty".toList
  "invalid configuration: ".toList ++ what

/-- Why a configuration file gives no configuration. -/
inductive ConfigFileError
  | unreadable (error : IoError)
  /-- The text has another form than the reader's. -/
  | malformed (reason : Text)
  | invalid (error : ConfigError)

/-- The message of a configuration file that gives none. -/
def ConfigFileError.message : ConfigFileError → Text
  | .unreadable e => e.message.toList
  | .malformed reason => reason
  | .invalid e => e.message

namespace Config

/-- The greatest number that a word of 64 bits holds. -/
def maxWord : Nat := 18446744073709551615

/-- The greatest number that a word of 32 bits holds. -/
def maxHalfWord : Nat := 4294967295

/-- The choices that hold where nothing else is said. -/
def standard : Config :=
  { blobStart := "SMAP".toList
    blobEnd := "*E".toList
    sectionHeader := "SourceDebugExtension:".toList
    toolCommand := []
    toolTimeout := 10000
    maxToolOutput := 10485760
    maxGap := 20
    anchor := "_jspService".toList
    divisor := 3
    boilerplateLines := 50
    boilerplateFraction := Binary64.ofDecimal false 2 (-1)
    sourceExtension := "java".toList }

/-- The first rule that the configuration breaks, if it breaks one. -/
def invalid? (c : Config) : Option ConfigError :=
  if c.blobStart.isEmpty || c.blobEnd.isEmpty then some .emptyBlobToken
  else if c.divisor = 0 then some .zeroDivisor
  else if !(c.boilerplateFraction.value?.any fun share => 0 ≤ share && share ≤ 1) then
    some (.fractionOutOfRange c.boilerplateFraction)
  else if c.maxToolOutput = 0 then some .zeroOutputLimit
  else none

/-- The configuration in a file: it is UTF-8, the reader takes its text, and it is valid. -/
def load (read : Text → Except Text Config) (fs : FileSystem) (path : Path) :
    Except ConfigFileError Config := do
  let bytes ← (fs.read path).mapError .unreadable
  match Utf8.decode? bytes with
  | none => throw (.unreadable .notUtf8)
  | some text =>
    let config ← (read text).mapError .malformed
    match config.invalid? with
    | some e => throw (.invalid e)
    | none => return config

/-- The configuration with the tool that a command line names. -/
def withToolCommand (c : Config) (words? : Text → Option (List Text)) (command : Text) :
    Except ConfigError Config :=
  match words? command with
  | none => .error (.unreadableToolCommand command)
  | some [] => .error .emptyToolCommand
  | some words => .ok { c with toolCommand := words }

end Config

end TemplateMap
