import Mathlib.Data.List.Nodup
import TemplateMap.Proofs.Chain
import TemplateMap.Proofs.FileSystem.Resolution
import TemplateMap.Resolver

/-! The cache of a resolver: what its entries are after each operation, and the three turns that a
request for a table can take.  What a request goes by is said here in terms of paths and files
alone, and the resolver is shown to go by the same. -/

namespace TemplateMap

/-- A request for a table, among the files as they are at the time. -/
structure Request where
  files : FileSystem
  artifact : Artifact
  template : Template
  tool : Tool

namespace Request

/-- The key of the table that is asked for: the components of the artifact's path and the name of
the template. -/
def key (q : Request) : CacheKey := ⟨Path.components q.artifact.compiled, q.template.name⟩

/-- The time that decides whether a kept table is still good: that of the compiled file, or else
that of the generated source. -/
def changed? (q : Request) : Option Timestamp :=
  (q.files.changed? q.artifact.compiled).or (q.files.changed? q.artifact.generated)

/-- What there is to make a table from: the bytes of the compiled file, and the generated source as
a text, as far as the two can be read. -/
def source (q : Request) : Source where
  artifactPath := q.artifact.compiled
  artifact := q.files.content? q.artifact.compiled
  generated := (q.files.content? q.artifact.generated).map Utf8.decodeLossy
  template := q.template
  files := q.files

/-- What the standard chain makes of the files. -/
def chain (q : Request) (config : Config) : ChainRun :=
  Chain.run q.source (Chain.standard config q.tool)

/-- What a resolver answers. -/
def build (q : Request) (r : Resolver) : Build := r.build q.files q.artifact q.template q.tool

end Request

namespace Resolver

section Request

variable (fs : FileSystem) (artifact : Artifact) (template : Template)

theorem readOptional_fst (path : Path) : (readOptional fs path).1 = fs.content? path := by
  unfold readOptional FileSystem.content?
  cases fs.read path <;> rfl

@[simp] theorem source_artifact :
    (source fs artifact template).1.artifact = fs.content? artifact.compiled :=
  readOptional_fst fs artifact.compiled

@[simp] theorem source_generated :
    (source fs artifact template).1.generated =
      (fs.content? artifact.generated).map Utf8.decodeLossy :=
  congrArg (Option.map Utf8.decodeLossy) (readOptional_fst fs artifact.generated)

theorem source_request (q : Request) :
    (source q.files q.artifact q.template).1 = q.source := by
  have hartifact := source_artifact q.files q.artifact q.template
  have hgenerated := source_generated q.files q.artifact q.template
  rw [Request.source, ← hartifact, ← hgenerated]
  rfl

theorem key_request (q : Request) : Resolver.key q.artifact q.template = q.key := rfl

theorem changed?_request (q : Request) : changed? q.files q.artifact = q.changed? := rfl

end Request

variable {r : Resolver} {e : CacheEntry} {key : CacheKey}

@[simp] theorem entry?_made (r : Resolver) (made : Nat) (key : CacheKey) :
    entry? { r with made := made } key = r.entry? key := rfl

theorem entry?_key (h : r.entry? key = some e) : e.key = key := by
  simpa using List.find?_some h

theorem entry?_mem (h : r.entry? key = some e) : e ∈ r.cache := List.mem_of_find?_eq_some h

@[simp] theorem entry?_put_self (r : Resolver) (e : CacheEntry) :
    entry? (r.put e) e.key = some e := by
  unfold entry? put
  simp

/-- Dropping entries with other keys does not change the entry for a key. -/
theorem find?_filter_key {keep : CacheEntry → Bool} (cache : List CacheEntry)
    (h : ∀ d : CacheEntry, d.key = key → keep d = true) :
    ((cache.filter keep).find? fun d => d.key = key) = cache.find? fun d => d.key = key := by
  rw [List.find?_filter]
  congr 1
  funext d
  by_cases hd : d.key = key
  · simp [hd, h d hd]
  · simp [hd]

theorem entry?_put_of_ne (r : Resolver) (h : key ≠ e.key) :
    entry? (r.put e) key = r.entry? key := by
  have hkept : ∀ d : CacheEntry, d.key = key → decide (d.key ≠ e.key) = true := by
    rintro d rfl
    exact decide_eq_true h
  unfold entry? put
  rw [List.find?_cons_of_neg (by simpa using Ne.symm h), find?_filter_key _ hkept]

/-- Of the artifact at a path no entry is left, and every other entry is. -/
theorem entry?_invalidate (r : Resolver) (path : Path) (key : CacheKey) :
    entry? (r.invalidate path) key =
      if key.compiled = Path.components path then none else r.entry? key := by
  unfold entry? invalidate
  split
  next h =>
    refine List.find?_eq_none.mpr fun d hd => ?_
    have hne := (List.mem_filter.mp hd).2
    simp only [decide_eq_true_eq] at hne ⊢
    rintro rfl
    exact hne h
  next h =>
    refine find?_filter_key _ ?_
    rintro d rfl
    exact decide_eq_true h

theorem mem_invalidate {path : Path} :
    e ∈ (r.invalidate path).cache ↔ e ∈ r.cache ∧ e.key.compiled ≠ Path.components path := by
  simp [invalidate]

/-- With one entry for each key, the entry for a key is the one in the cache. -/
theorem entry?_eq_some_iff (h : (r.cache.map CacheEntry.key).Nodup) :
    r.entry? key = some e ↔ e ∈ r.cache ∧ e.key = key := by
  refine ⟨fun he => ⟨entry?_mem he, entry?_key he⟩, ?_⟩
  rintro ⟨hmem, rfl⟩
  cases hfound : r.entry? e.key with
  | none =>
    have hne := List.find?_eq_none.mp hfound e hmem
    simp at hne
  | some d =>
    have hkey : d.key = e.key := entry?_key hfound
    rw [List.inj_on_of_nodup_map h (entry?_mem hfound) hmem hkey]

theorem nodup_put (h : (r.cache.map CacheEntry.key).Nodup) (e : CacheEntry) :
    ((r.put e).cache.map CacheEntry.key).Nodup := by
  simp only [put, List.map_cons, List.nodup_cons]
  refine ⟨by simp, h.sublist ((List.filter_sublist).map _)⟩

theorem nodup_invalidate (h : (r.cache.map CacheEntry.key).Nodup) (path : Path) :
    ((r.invalidate path).cache.map CacheEntry.key).Nodup :=
  h.sublist ((List.filter_sublist).map _)

/-- `e` is the entry for the key of a request, and it has the time that the request sees. -/
structure Keeps (r : Resolver) (q : Request) (e : CacheEntry) : Prop where
  entry : r.entry? q.key = some e
  changed : e.changed = q.changed?

/-- The turn that a request takes: a kept table is given out and nothing happens; or the chain runs
and finds nothing, and the resolver stays as it is; or the chain runs and finds a table, which is
given out and put in place of the entry for the key. -/
inductive Turn (r : Resolver) (q : Request) (b : Build) : Prop
  | kept (e : CacheEntry) (keeps : r.Keeps q e) (outcome : b.outcome = .ok e.handle)
      (resolver : b.resolver = r) (toolRuns : b.toolRuns = 0) (files : b.files = q.files)
  | failed (stale : ∀ e, ¬ r.Keeps q e) (found : (q.chain r.config).found = none)
      (outcome : b.outcome = .error (.notFound q.artifact.compiled)) (resolver : b.resolver = r)
      (toolRuns : b.toolRuns = (q.chain r.config).toolRuns)
      (files : b.files = (q.chain r.config).files)
  | made (table : TierTable) (stale : ∀ e, ¬ r.Keeps q e)
      (found : (q.chain r.config).found = some table) (outcome : b.outcome = .ok ⟨r.made, table⟩)
      (resolver : b.resolver =
        { r.put ⟨q.key, q.changed?, ⟨r.made, table⟩⟩ with made := r.made + 1 })
      (toolRuns : b.toolRuns = (q.chain r.config).toolRuns)
      (files : b.files = (q.chain r.config).files)

/-- A rebuild takes one of the last two turns, whatever is logged before. -/
theorem rebuild_turn (r : Resolver) (q : Request) (stale : ∀ e, ¬ r.Keeps q e) (log : Log → Log) :
    let b := r.rebuild q.files q.artifact q.template q.tool
    r.Turn q { b with log := log b.log } := by
  simp only [rebuild, source_request, key_request, changed?_request]
  split
  next found => exact .failed stale found rfl rfl rfl rfl
  next table found => exact .made table stale found rfl rfl rfl rfl

/-- Every request takes one of the three turns. -/
theorem build_turn (r : Resolver) (q : Request) : r.Turn q (q.build r) := by
  unfold Request.build build
  rw [key_request, changed?_request]
  split
  next hentry =>
    refine rebuild_turn r q (fun e he => ?_) id
    cases hentry.symm.trans he.entry
  next e hentry =>
    split
    next hchanged => exact .kept e ⟨hentry, hchanged⟩ rfl rfl rfl rfl
    next hchanged =>
      refine rebuild_turn r q (fun d hd => hchanged ?_) (.artifactChanged q.artifact.compiled :: ·)
      obtain rfl : e = d := Option.some.inj (hentry.symm.trans hd.entry)
      exact hd.changed

end Resolver

end TemplateMap
