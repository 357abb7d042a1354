import TemplateMap.Answer
import TemplateMap.Config
import TemplateMap.FileSystem
import TemplateMap.Template

/-! The resolver: tables for artifacts, made once for each artifact and template and kept until the
artifact's file has another time. -/

namespace TemplateMap

/-- A table that a resolver gave out, with the number of the chain run that made it. -/
structure Handle where
  serial : Nat
  content : TierTable
  deriving DecidableEq

/-- What a cached table belongs to: a path by its components, and a template by its name. -/
structure CacheKey where
  compiled : List Path.Component
  template : Text
  deriving DecidableEq

/-- A table kept for later, with the time its artifact had. -/
structure CacheEntry where
  key : CacheKey
  changed : Option Timestamp
  handle : Handle
  deriving DecidableEq

/-- A resolver: its configuration, the tables it keeps, and how many it has made. -/
structure Resolver where
  config : Config
  cache : List CacheEntry
  made : Nat

/-- What a request for a table gave, and the files after that. -/
structure Build where
  outcome : Except MappingError Handle
  resolver : Resolver
  log : Log
  toolRuns : Nat
  files : FileSystem

namespace Resolver

/-- A resolver that has made no table yet. -/
def new (config : Config) : Resolver := ⟨config, [], 0⟩

/-- The key of an artifact's table for a template. -/
def key (artifact : Artifact) (template : Template) : CacheKey :=
  ⟨Path.components artifact.compiled, template.name⟩

/-- The time of an artifact: that of its compiled file, or else that of its generated source. -/
def changed? (fs : FileSystem) (artifact : Artifact) : Option Timestamp :=
  (fs.changed? artifact.compiled).or (fs.changed? artifact.generated)

/-- The bytes at a path if they can be read, and the event that tells when they cannot. -/
def readOptional (fs : FileSystem) (path : Path) : Option Bytes × Log :=
  match fs.read path with
  | .ok bytes => (some bytes, [])
  | .error e => (none, [.unreadable path e.message])

/-- What a table for an artifact and a template can be made from. -/
def source (fs : FileSystem) (artifact : Artifact) (template : Template) : Source × Log :=
  let (bytes, log) := readOptional fs artifact.compiled
  let (generated, log') := readOptional fs artifact.generated
  (⟨artifact.compiled, bytes, generated.map Utf8.decodeLossy, template, fs⟩, log ++ log')

/-- The entry for a key. -/
def entry? (r : Resolver) (key : CacheKey) : Option CacheEntry :=
  r.cache.find? fun e => e.key = key

/-- The resolver with an entry put in place of any other for its key. -/
def put (r : Resolver) (entry : CacheEntry) : Resolver :=
  { r with cache := entry :: r.cache.filter fun e => e.key ≠ entry.key }

/-- Makes a table anew and keeps it, if there is one, with the time that the artifact had before. -/
def rebuild (r : Resolver) (fs : FileSystem) (artifact : Artifact) (template : Template)
    (tool : Tool) : Build :=
  let (source, readLog) := source fs artifact template
  let run := Chain.run source (Chain.standard r.config tool)
  match run.found with
  | none =>
    ⟨.error (.notFound artifact.compiled), r, readLog ++ run.log, run.toolRuns, run.files⟩
  | some table =>
    let handle : Handle := ⟨r.made, table⟩
    let entry : CacheEntry := ⟨key artifact template, changed? fs artifact, handle⟩
    ⟨.ok handle, { r.put entry with made := r.made + 1 }, readLog ++ run.log, run.toolRuns,
      run.files⟩

/-- The table of an artifact for a template: the one that is kept, if the artifact has the time it
had, and else a new one. -/
def build (r : Resolver) (fs : FileSystem) (artifact : Artifact) (template : Template)
    (tool : Tool) : Build :=
  match r.entry? (key artifact template) with
  | none => r.rebuild fs artifact template tool
  | some entry =>
    if entry.changed = changed? fs artifact then
      ⟨.ok entry.handle, r, [.cacheHit artifact.compiled template.name], 0, fs⟩
    else
      let build := r.rebuild fs artifact template tool
      { build with log := .artifactChanged artifact.compiled :: build.log }

/-- The resolver without the tables of the artifact at a path. -/
def invalidate (r : Resolver) (compiled : Path) : Resolver :=
  { r with cache := r.cache.filter fun e => e.key.compiled ≠ Path.components compiled }

/-- The resolver without any table. -/
def clear (r : Resolver) : Resolver := { r with cache := [] }

end Resolver

end TemplateMap
