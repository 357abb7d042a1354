import TemplateMap.Execution
import TemplateMap.Proofs.Config
import TemplateMap.Proofs.Resolver.Transparency
import TemplateMap.Proofs.Table.Total
import TemplateMap.Proofs.Template
import TemplateMap.Proofs.Text.Occurrence

/-! Exit codes: which of them an execution ends with on any host, by what goes wrong first in it. -/

namespace TemplateMap

namespace ExecutionError

/-- A path says that there is nothing to do if the words are in it, in any letter case. -/
def SaysIdle (path : Path) : Prop := "nothing to do".toList <:+: path.map Char.toLower

instance : DecidablePred SaysIdle := fun _ => inferInstanceAs (Decidable (_ <:+: _))

theorem saysNothingAsked_configFile (path : Path) :
    saysNothingAsked ("Failed to load config ".toList ++ path) = true ↔ SaysIdle path := by
  have hlower : Text.asciiLower ("Failed to load config ".toList ++ path) =
      "failed to load config ".toList ++ path.asciiLower := List.map_append
  have hlead : occursIn "nothing to do".toList
      ("failed to load config ".toList ++ path.asciiLower) =
        occursIn "nothing to do".toList path.asciiLower :=
    occursIn_append_left (by decide) path.asciiLower
  rw [saysNothingAsked, hlower, hlead, occursIn_iff]
  rfl

/-- The path in the message is searched with the rest of it. -/
theorem exitCode_configFile (path : Path) (cause : ConfigFileError) :
    (configFile path cause).exitCode = if SaysIdle path then 2 else 1 :=
  if_congr (saysNothingAsked_configFile path) rfl rfl

theorem exitCode_toolOption (cause : ConfigError) : (toolOption cause).exitCode = 1 := by
  have hlead : saysNothingAsked "Invalid --tool".toList = false := by decide +kernel
  change (if saysNothingAsked "Invalid --tool".toList then 2 else 1) = 1
  rw [hlead]
  rfl

end ExecutionError

namespace Invocation

variable {host : Host} {i : Invocation} {files : FileSystem} {config base : Config}

/-- Nothing is asked of the table. -/
def Idle (i : Invocation) : Prop := i.forward = [] ∧ i.reverse = [] ∧ i.dump = false

theorem asksNothing_iff : i.asksNothing = true ↔ i.Idle := by
  simp [asksNothing, Idle, and_assoc]

/-- The configuration that the options of an invocation are laid over: the one in the file that is
named, or the standard one. -/
inductive Base (i : Invocation) (host : Host) (files : FileSystem) : Config → Prop
  | standard (unnamed : i.config = none) : Base i host files .standard
  | file {path : Path} {config : Config} (named : i.config = some path)
      (holds : config.IsIn host.readConfig files path) : Base i host files config

/-- The words of the tool: those of the option; without it those of the configuration, or if there
are none, of a disassembler. -/
inductive ToolWords (i : Invocation) (host : Host) (base : Config) : List Text → Prop
  | named {command : Text} {words : List Text} (named : i.tool = some command)
      (split : host.words? command = some words) (nonempty : words ≠ []) :
      ToolWords i host base words
  | kept (unnamed : i.tool = none) (nonempty : base.toolCommand ≠ []) :
      ToolWords i host base base.toolCommand
  | standard {words : List Text} (unnamed : i.tool = none) (unset : base.toolCommand = [])
      (split : host.words? "javap -v".toList = some words) (nonempty : words ≠ []) :
      ToolWords i host base words

/-- The configuration of an invocation is made. -/
def Configured (i : Invocation) (host : Host) (files : FileSystem) (config : Config) : Prop :=
  ∃ base words, i.Base host files base ∧ i.ToolWords host base words ∧
    { base with toolCommand := words, toolTimeout := i.timeout.getD base.toolTimeout } = config

/-- The configuration file that is named holds none, and its path says that there is nothing to
do. -/
def Misread (i : Invocation) (host : Host) (files : FileSystem) : Prop :=
  ∃ path, i.config = some path ∧ (∀ config, ¬ Config.IsIn host.readConfig files path config) ∧
    ExecutionError.SaysIdle path

/-- A configuration is made, but generated sources cannot have the extension in it. -/
def Stopped (i : Invocation) (host : Host) (files : FileSystem) : Prop :=
  ∃ config, i.Configured host files config ∧ '/' ∈ config.sourceExtension

/-- A configuration is made and the artifact has a source, the one that is named or the one beside
it, but no table is found. -/
def Unmapped (i : Invocation) (host : Host) (files : FileSystem) : Prop :=
  ∃ config derived, i.Configured host files config ∧
    Path.withExtension i.compiled config.sourceExtension = .ok derived ∧
    ((Resolver.new config).build files ⟨i.compiled, i.source.getD derived⟩
      (Template.ofPath i.template) (host.tool config)).outcome = .error (.notFound i.compiled)

/-! ### The configuration -/

theorem loaded_eq_ok_iff : i.loaded host files = .ok config ↔ i.Base host files config := by
  constructor
  · intro h
    unfold loaded at h
    split at h
    next path named => exact .file named (Config.load_eq_ok_iff.mp (Loop.mapError_eq_ok_iff.mp h))
    next unnamed =>
      obtain rfl := Except.ok.inj h
      exact .standard unnamed
  · rintro (unnamed | ⟨named, holds⟩)
    · rw [loaded, unnamed]
    · rw [loaded, named]
      exact Loop.mapError_eq_ok_iff.mpr (Config.load_eq_ok_iff.mpr holds)

theorem withTool_eq_ok_iff : i.withTool host base = .ok config ↔
    ∃ words, i.ToolWords host base words ∧ { base with toolCommand := words } = config := by
  constructor
  · intro h
    unfold withTool at h
    split at h
    next command named =>
      obtain ⟨words, hwords, nonempty, h⟩ :=
        Config.withToolCommand_eq_ok_iff.mp (Loop.mapError_eq_ok_iff.mp h)
      exact ⟨words, .named named hwords nonempty, h⟩
    next unnamed =>
      split at h
      next unset =>
        obtain ⟨words, hwords, nonempty, h⟩ :=
          Config.withToolCommand_eq_ok_iff.mp (Loop.mapError_eq_ok_iff.mp h)
        exact ⟨words, .standard unnamed (List.isEmpty_iff.mp unset) hwords nonempty, h⟩
      next given =>
        exact ⟨_, .kept unnamed (mt List.isEmpty_iff.mpr given), Except.ok.inj h⟩
  · rintro ⟨words, hwords, h⟩
    cases hwords with
    | named named split nonempty =>
      simp only [withTool, named, Loop.mapError_eq_ok_iff]
      exact Config.withToolCommand_eq_ok_iff.mpr ⟨words, split, nonempty, h⟩
    | kept unnamed nonempty =>
      simp only [withTool, unnamed]
      rw [if_neg (mt List.isEmpty_iff.mp nonempty)]
      exact congrArg _ h
    | standard unnamed unset split nonempty =>
      simp only [withTool, unnamed]
      rw [if_pos (List.isEmpty_iff.mpr unset), Loop.mapError_eq_ok_iff]
      exact Config.withToolCommand_eq_ok_iff.mpr ⟨words, split, nonempty, h⟩

theorem configuration_eq_ok_iff :
    i.configuration host files = .ok config ↔ i.Configured host files config := by
  unfold configuration
  rw [Loop.bind_eq_ok_iff]
  simp only [Loop.bind_eq_ok_iff, loaded_eq_ok_iff, withTool_eq_ok_iff]
  constructor
  · rintro ⟨base, hbase, tooled, ⟨words, hwords, rfl⟩, h⟩
    exact ⟨base, words, hbase, hwords, Except.ok.inj h⟩
  · rintro ⟨base, words, hbase, hwords, rfl⟩
    exact ⟨base, hbase, _, ⟨words, hwords, rfl⟩, rfl⟩

theorem exitCode_of_withTool {e : ExecutionError} (h : i.withTool host base = .error e) :
    e.exitCode = 1 := by
  unfold withTool at h
  split at h
  next =>
    obtain ⟨cause, -, rfl⟩ := Loop.mapError_eq_error_iff.mp h
    exact ExecutionError.exitCode_toolOption cause
  next =>
    split at h
    next =>
      obtain ⟨cause, hcause, rfl⟩ := Loop.mapError_eq_error_iff.mp h
      rcases Config.withToolCommand_eq_error hcause with rfl | rfl <;> decide +kernel
    next => cases h

theorem Misread.not_base (h : i.Misread host files) (config : Config) :
    ¬ i.Base host files config := by
  obtain ⟨path, named, hnone, -⟩ := h
  rintro (unnamed | ⟨named', holds⟩)
  · exact nomatch named.symm.trans unnamed
  · obtain rfl := Option.some.inj (named.symm.trans named')
    exact hnone config holds

/-- Whatever keeps a configuration from being made, the exit code is 1, unless the file is misread.
-/
theorem exitCode_of_configuration {e : ExecutionError}
    (h : i.configuration host files = .error e) :
    i.Misread host files ∧ e.exitCode = 2 ∨ ¬ i.Misread host files ∧ e.exitCode = 1 := by
  unfold configuration at h
  rcases Loop.bind_eq_error_iff.mp h with h | ⟨base, hbase, h⟩
  · unfold loaded at h
    cases hpath : i.config with
    | none =>
      rw [hpath] at h
      cases h
    | some path =>
      rw [hpath] at h
      obtain ⟨cause, hcause, rfl⟩ := Loop.mapError_eq_error_iff.mp h
      have hnone : ∀ config, ¬ Config.IsIn host.readConfig files path config :=
        fun config holds => nomatch hcause.symm.trans (Config.load_eq_ok_iff.mpr holds)
      rw [ExecutionError.exitCode_configFile]
      by_cases hidle : ExecutionError.SaysIdle path
      · exact .inl ⟨⟨path, hpath, hnone, hidle⟩, if_pos hidle⟩
      · refine .inr ⟨?_, if_neg hidle⟩
        rintro ⟨path', hpath', -, hidle'⟩
        obtain rfl := Option.some.inj (hpath.symm.trans hpath')
        exact hidle hidle'
  · refine .inr ⟨fun misread => misread.not_base base (loaded_eq_ok_iff.mp hbase), ?_⟩
    rcases Loop.bind_eq_error_iff.mp h with h | ⟨tooled, htooled, h⟩
    · exact exitCode_of_withTool h
    · cases h

/-! ### The table -/

theorem table_of_idle (h : i.Idle) : i.table host files = .error .nothingAsked := by
  rw [table, if_pos (asksNothing_iff.mpr h)]
  rfl

theorem table_of_misconfigured (asks : ¬ i.Idle) {e : ExecutionError}
    (h : i.configuration host files = .error e) : i.table host files = .error e := by
  rw [table, if_neg (mt asksNothing_iff.mp asks), h]
  rfl

theorem table_of_stopped (asks : ¬ i.Idle) (configured : i.configuration host files = .ok config)
    (h : '/' ∈ config.sourceExtension) :
    i.table host files = .error (.extension (.holdsSeparator config.sourceExtension)) := by
  have hartifact : i.artifact config =
      .error (.extension (.holdsSeparator config.sourceExtension)) := by
    rw [artifact, Artifact.ofCompiled_of_mem h]
    rfl
  rw [table, if_neg (mt asksNothing_iff.mp asks)]
  simp only [configured, Loop.ok_bind, hartifact]
  rfl

/-- The request for a table that an invocation makes. -/
def request (i : Invocation) (host : Host) (files : FileSystem) (config : Config) (derived : Path) :
    Request :=
  ⟨files, ⟨i.compiled, i.source.getD derived⟩, Template.ofPath i.template, host.tool config⟩

theorem table_of_configured {derived : Path} (asks : ¬ i.Idle)
    (configured : i.configuration host files = .ok config)
    (hderived : Path.withExtension i.compiled config.sourceExtension = .ok derived) :
    i.table host files =
      ((i.request host files config derived).content (.new config)).mapError .mapping := by
  have hartifact : i.artifact config = .ok ⟨i.compiled, i.source.getD derived⟩ := by
    rw [artifact, Artifact.ofCompiled, hderived]
    rfl
  rw [table, if_neg (mt asksNothing_iff.mp asks)]
  simp only [configured, Loop.ok_bind, hartifact]
  unfold Request.content Request.build request
  cases ((Resolver.new config).build files ⟨i.compiled, i.source.getD derived⟩
    (Template.ofPath i.template) (host.tool config)).outcome <;> rfl

theorem exists_answers {query : Int → Except MappingError Answer}
    (h : ∀ line, ∃ a, query line = .ok a) (lines : List Int) :
    ∃ answered, answers query lines = .ok answered := by
  choose answer hanswer using h
  refine ⟨lines.map fun line => ⟨line, answer line⟩, Loop.mapM_eq_ok fun line _ => ?_⟩
  rw [hanswer line]
  rfl

/-- A table with segments always makes a report. -/
theorem exit_of_table {t : TierTable} (h : i.table host files = .ok t) (hne : t.table ≠ []) :
    (i.execute host files).exit = 0 := by
  obtain ⟨forward, hforward⟩ := exists_answers (fun line =>
    (TierTable.forward_of_ne_nil hne line).imp fun _ ha => ha.1) i.forward
  obtain ⟨reverse, hreverse⟩ := exists_answers (fun line =>
    (TierTable.reverse_of_ne_nil hne line).imp fun _ ha => ha.1) i.reverse
  have hreport : ∃ report, i.report t = .ok report := by
    rw [report, hforward, hreverse]
    exact ⟨_, rfl⟩
  obtain ⟨report, hreport⟩ := hreport
  simp only [execute, h, hreport]

theorem exit_of_error {e : ExecutionError} (h : i.table host files = .error e) :
    (i.execute host files).exit = e.exitCode := by
  simp only [execute, h]

/-! ### The exit code -/

/-- What an execution ends with, by the first thing in it that goes wrong. -/
inductive Ending (i : Invocation) (host : Host) (files : FileSystem) : Nat → Prop
  | idle (idle : i.Idle) : Ending i host files 2
  | misread (asks : ¬ i.Idle) (misread : i.Misread host files) : Ending i host files 2
  | misconfigured (asks : ¬ i.Idle) (fails : ∀ config, ¬ i.Configured host files config)
      (read : ¬ i.Misread host files) : Ending i host files 1
  | stopped (asks : ¬ i.Idle) (stops : i.Stopped host files) : Ending i host files 101
  | unmapped (asks : ¬ i.Idle) (missing : i.Unmapped host files) : Ending i host files 3
  | answered (asks : ¬ i.Idle) {config : Config} (configured : i.Configured host files config)
      (runs : ¬ i.Stopped host files) (mapped : ¬ i.Unmapped host files) : Ending i host files 0

theorem Configured.unique {config' : Config} (h : i.Configured host files config)
    (h' : i.Configured host files config') : config = config' :=
  Except.ok.inj ((configuration_eq_ok_iff.mpr h).symm.trans (configuration_eq_ok_iff.mpr h'))

theorem Misread.not_configured (h : i.Misread host files) (config : Config) :
    ¬ i.Configured host files config :=
  fun ⟨base, _, hbase, _⟩ => h.not_base base hbase

theorem Unmapped.not_stopped (h : i.Unmapped host files) : ¬ i.Stopped host files := by
  obtain ⟨config, derived, configured, hderived, -⟩ := h
  rintro ⟨config', configured', hextension⟩
  obtain rfl := configured.unique configured'
  exact nomatch hderived.symm.trans (Path.withExtension_of_mem hextension i.compiled)

theorem Configured.not_stopped (configured : i.Configured host files config)
    (h : '/' ∉ config.sourceExtension) : ¬ i.Stopped host files := by
  rintro ⟨config', configured', hextension⟩
  obtain rfl := configured.unique configured'
  exact h hextension

/-- With a configuration and an artifact, the request for a table decides the ending: if it takes the
turn of a failure, the artifact is unmapped, and else it is answered. -/
theorem ending_of_configured (asks : ¬ i.Idle) (hconfig : i.configuration host files = .ok config)
    (hextension : '/' ∉ config.sourceExtension) :
    Ending i host files (i.execute host files).exit := by
  have configured : i.Configured host files config := configuration_eq_ok_iff.mp hconfig
  obtain ⟨derived, hderived⟩ := Path.exists_withExtension_of_notMem hextension i.compiled
  let q := i.request host files config derived
  have htable := table_of_configured asks hconfig hderived
  cases Resolver.build_turn (.new config) q with
  | kept e keeps => exact nomatch keeps.entry
  | failed stale found outcome =>
    have hcontent : q.content (.new config) = .error (.notFound i.compiled) := by
      rw [Request.content, outcome]
      rfl
    rw [hcontent] at htable
    rw [exit_of_error htable]
    exact .unmapped asks ⟨config, derived, configured, hderived, outcome⟩
  | made t stale found outcome =>
    have hcontent : q.content (.new config) = .ok t := by
      rw [Request.content, outcome]
      rfl
    have hmapped : ¬ i.Unmapped host files := by
      rintro ⟨config', derived', configured', hderived', hmissing⟩
      obtain rfl := configured.unique configured'
      obtain rfl := Except.ok.inj (hderived.symm.trans hderived')
      exact nomatch outcome.symm.trans hmissing
    rw [hcontent] at htable
    rw [exit_of_table htable (Chain.table_ne_nil_of_found found)]
    exact .answered asks configured (configured.not_stopped hextension) hmapped

theorem execute_ending (i : Invocation) (host : Host) (files : FileSystem) :
    Ending i host files (i.execute host files).exit := by
  by_cases idle : i.Idle
  · have hexit : ExecutionError.nothingAsked.exitCode = 2 := by decide +kernel
    rw [exit_of_error (table_of_idle idle), hexit]
    exact .idle idle
  cases hconfig : i.configuration host files with
  | error e =>
    rw [exit_of_error (table_of_misconfigured idle hconfig)]
    rcases exitCode_of_configuration hconfig with ⟨misread, hcode⟩ | ⟨read, hcode⟩
    · rw [hcode]
      exact .misread idle misread
    · rw [hcode]
      refine .misconfigured idle (fun config configured => ?_) read
      exact nomatch hconfig.symm.trans (configuration_eq_ok_iff.mpr configured)
  | ok config =>
    by_cases hextension : '/' ∈ config.sourceExtension
    · rw [exit_of_error (table_of_stopped idle hconfig hextension)]
      exact .stopped idle ⟨config, configuration_eq_ok_iff.mp hconfig, hextension⟩
    · exact ending_of_configured idle hconfig hextension

/-- An execution ends with 2 when nothing is asked, and also when the file is misread. -/
theorem Ending.eq_two_iff {code : Nat} (h : Ending i host files code) :
    code = 2 ↔ i.Idle ∨ i.Misread host files := by
  cases h with
  | idle idle => exact iff_of_true rfl (.inl idle)
  | misread asks misread => exact iff_of_true rfl (.inr misread)
  | misconfigured asks fails read => exact iff_of_false nofun (not_or_intro asks read)
  | stopped asks stops =>
    obtain ⟨config, configured, -⟩ := stops
    exact iff_of_false nofun
      (not_or_intro asks fun misread => misread.not_configured config configured)
  | unmapped asks missing =>
    obtain ⟨config, derived, configured, -⟩ := missing
    exact iff_of_false nofun
      (not_or_intro asks fun misread => misread.not_configured config configured)
  | answered asks configured =>
    exact iff_of_false nofun
      (not_or_intro asks fun misread => misread.not_configured _ configured)

/-- The exit codes, each with what it stands for.  They tell the failures apart with one exception:
a configuration file that holds no configuration, under a path that says that there is nothing to
do. -/
theorem execute_exit (host : Host) (i : Invocation) (files : FileSystem) :
    ((i.execute host files).exit = 2 ↔ i.Idle ∨ i.Misread host files) ∧
    ((i.execute host files).exit = 3 ↔ ¬ i.Idle ∧ i.Unmapped host files) ∧
    ((i.execute host files).exit = 1 ↔ ¬ i.Idle ∧ ¬ i.Misread host files ∧
      ∀ config, ¬ i.Configured host files config) ∧
    ((i.execute host files).exit = 101 ↔ ¬ i.Idle ∧ i.Stopped host files) ∧
    ((i.execute host files).exit = 0 ↔ ¬ i.Idle ∧ (∃ config, i.Configured host files config) ∧
      ¬ i.Stopped host files ∧ ¬ i.Unmapped host files) := by
  have hmisread : i.Misread host files → ¬ ∃ config, i.Configured host files config :=
    fun misread ⟨config, configured⟩ => misread.not_configured config configured
  have hstopped : i.Stopped host files → ∃ config, i.Configured host files config :=
    fun ⟨config, configured, _⟩ => ⟨config, configured⟩
  have hunmapped : i.Unmapped host files → ∃ config, i.Configured host files config :=
    fun ⟨config, _, configured, _⟩ => ⟨config, configured⟩
  have hapart : i.Unmapped host files → ¬ i.Stopped host files := Unmapped.not_stopped
  have hending := execute_ending i host files
  refine ⟨hending.eq_two_iff, ?_⟩
  rw [← not_exists]
  generalize (i.execute host files).exit = code at hending ⊢
  cases hending with
  | idle idle => simp [idle]
  | misread asks misread => simp [asks, misread]; tauto
  | misconfigured asks fails read => simp [asks, fails, read]; tauto
  | stopped asks stops => simp [asks, stops]; tauto
  | unmapped asks missing => simp [asks, missing]; tauto
  | answered asks configured runs mapped =>
    have hconfigured : ∃ config, i.Configured host files config := ⟨_, configured⟩
    have hread := mt hmisread (not_not_intro hconfigured)
    simp [asks, hconfigured, runs, mapped, hread]

/-- Arguments that ask for the segments of a table, with a configuration file that there is not. -/
def misleadingArguments : List Text :=
  ["a.class", "--template", "a.jsp", "--dump", "--config", "nothing to do.json"].map String.toList

/-- What the arguments ask for. -/
def misleading : Invocation where
  compiled := "a.class".toList
  template := "a.jsp".toList
  source := none
  forward := []
  reverse := []
  tool := none
  timeout := none
  config := some "nothing to do.json".toList
  json := false
  dump := true
  quiet := false

theorem misleading_misread (host : Host) : misleading.Misread host .empty := by
  have hread : (FileSystem.empty.read "nothing to do.json".toList).isOk = false := by
    decide +kernel
  refine ⟨_, rfl, fun config holds => ?_, by decide +kernel⟩
  obtain ⟨bytes, -, hbytes, -⟩ := holds
  rw [hbytes] at hread
  cases hread

/-- On no host is every execution that ends with 2 one that was asked nothing. -/
theorem not_exists_exit_two_iff : ¬ ∃ host : Host, ∀ (arguments : List Text) (i : Invocation)
    (files : FileSystem), CommandLine.parse arguments = .ok i →
    (i.execute host files).exit ≠ 101 → ((i.execute host files).exit = 2 ↔ i.Idle) := by
  rintro ⟨host, h⟩
  have hparse : CommandLine.parse misleadingArguments = .ok misleading := rfl
  have hexit : (misleading.execute host .empty).exit = 2 :=
    (execute_ending misleading host .empty).eq_two_iff.mpr (.inr (misleading_misread host))
  have hidle : misleading.Idle := (h _ misleading .empty hparse (by omega)).mp hexit
  exact nomatch hidle.2.2

end Invocation

end TemplateMap
