import TemplateMap.Proofs.Resolver.Cache

/-! Sessions: one resolver through any sequence of file changes, requests, invalidations and
clearings.  A journal is written beside the resolver, which knows nothing of a cache: it notes each
run of the chain and each drop, and finds the latest successful run for a key since the last drop.
The main statement is that after every session the cache is what the journal finds. -/

namespace TemplateMap

/-- Something that happens to a resolver or to the files around it. -/
inductive Call
  | files (change : FileSystem → FileSystem)
  | build (artifact : Artifact) (template : Template) (tool : Tool)
  | invalidate (path : Path)
  | clear

/-- A line of a journal: the chain ran on a request, the tables of the artifact at a path were
dropped, or all tables were. -/
inductive Record
  | ran (q : Request)
  | dropped (compiled : List Path.Component)
  | cleared

/-- What has happened in a session, the latest first. -/
abbrev Journal := List Record

namespace Journal

/-- The latest run for a key that found a table, unless the key was dropped after it. -/
def latest? (config : Config) (key : CacheKey) : Journal → Option Request
  | [] => none
  | .ran q :: older =>
    if q.key = key ∧ (q.chain config).found.isSome then some q else latest? config key older
  | .dropped compiled :: older =>
    if key.compiled = compiled then none else latest? config key older
  | .cleared :: _ => none

/-- Whether the latest run for the key of a request saw the time that the request sees. -/
def answers (config : Config) (q : Request) (j : Journal) : Bool :=
  (j.latest? config q.key).any fun run => run.changed? = q.changed?

/-- The journal after a request: the chain runs unless the latest run answers it. -/
def request (config : Config) (q : Request) (j : Journal) : Journal :=
  if j.answers config q then j else .ran q :: j

end Journal

/-- A resolver, the files around it, and the journal of what happened to it. -/
structure Session where
  resolver : Resolver
  files : FileSystem
  journal : Journal

namespace Session

/-- The session of a new resolver. -/
def start (config : Config) (files : FileSystem) : Session := ⟨.new config, files, []⟩

/-- The session after a call. -/
def step (s : Session) : Call → Session
  | .files change => { s with files := change s.files }
  | .build artifact template tool =>
    let q : Request := ⟨s.files, artifact, template, tool⟩
    let build := q.build s.resolver
    ⟨build.resolver, build.files, s.journal.request s.resolver.config q⟩
  | .invalidate path =>
    { s with
      resolver := s.resolver.invalidate path
      journal := .dropped (Path.components path) :: s.journal }
  | .clear => { s with resolver := s.resolver.clear, journal := .cleared :: s.journal }

/-- The session after calls. -/
def run (s : Session) (calls : List Call) : Session := calls.foldl step s

end Session

/-- An entry is what a run left: its key, the time it saw and the table it found. -/
structure CacheEntry.LeftBy (config : Config) (e : CacheEntry) (q : Request) : Prop where
  key : e.key = q.key
  changed : e.changed = q.changed?
  found : (q.chain config).found = some e.handle.content

namespace Session

variable {s : Session}

/-- The cache is what the journal says: for each key there is at most one entry, it is the one that
the latest run left, and there is none if there is no such run.  The tables in it were all made
before. -/
structure Recorded (s : Session) : Prop where
  keys_nodup : (s.resolver.cache.map CacheEntry.key).Nodup
  entry : ∀ key, Option.Rel (CacheEntry.LeftBy s.resolver.config) (s.resolver.entry? key)
    (s.journal.latest? s.resolver.config key)
  serial_lt : ∀ e ∈ s.resolver.cache, e.handle.serial < s.resolver.made

theorem start_recorded (config : Config) (files : FileSystem) : (start config files).Recorded where
  keys_nodup := List.nodup_nil
  entry _ := .none
  serial_lt _ h := nomatch h

/-- The journal answers a request by its latest run when the resolver keeps an entry for it. -/
theorem Recorded.answers_iff (h : s.Recorded) (q : Request) :
    s.journal.answers s.resolver.config q = true ↔ ∃ e, s.resolver.Keeps q e := by
  have rel := h.entry q.key
  unfold Journal.answers
  cases hentry : s.resolver.entry? q.key <;>
    cases hlatest : s.journal.latest? s.resolver.config q.key <;> rw [hentry, hlatest] at rel
  case none.none => simp; exact fun e he => nomatch hentry.symm.trans he.entry
  case none.some => cases rel
  case some.none => cases rel
  case some.some e run =>
    cases rel with
    | some left =>
      simp only [Option.any_some, decide_eq_true_eq, ← left.changed]
      refine ⟨fun hchanged => ⟨e, hentry, hchanged⟩, ?_⟩
      rintro ⟨d, keeps⟩
      obtain rfl : e = d := Option.some.inj (hentry.symm.trans keeps.entry)
      exact keeps.changed

theorem Recorded.files (h : s.Recorded) (files : FileSystem) :
    ({ s with files := files } : Session).Recorded :=
  ⟨h.keys_nodup, h.entry, h.serial_lt⟩

theorem Recorded.invalidate (h : s.Recorded) (path : Path) :
    (s.step (.invalidate path)).Recorded where
  keys_nodup := Resolver.nodup_invalidate h.keys_nodup path
  entry key := by
    simp only [step, Resolver.entry?_invalidate, Journal.latest?]
    split
    · exact .none
    · exact h.entry key
  serial_lt e he := h.serial_lt e (Resolver.mem_invalidate.mp he).1

theorem clear_recorded (s : Session) : (s.step .clear).Recorded where
  keys_nodup := List.nodup_nil
  entry _ := .none
  serial_lt _ he := nomatch he

/-- A request keeps the cache and the journal in step, whichever turn it takes. -/
theorem Recorded.build (h : s.Recorded) (artifact : Artifact) (template : Template) (tool : Tool) :
    (s.step (.build artifact template tool)).Recorded := by
  let q : Request := ⟨s.files, artifact, template, tool⟩
  have hanswers := h.answers_iff q
  simp only [step, Journal.request]
  cases Resolver.build_turn s.resolver q with
  | kept e keeps outcome resolver toolRuns files =>
    rw [if_pos (hanswers.mpr ⟨e, keeps⟩), resolver]
    exact h.files _
  | failed stale found outcome resolver toolRuns files =>
    rw [if_neg (fun hyes => (hanswers.mp hyes).elim stale), resolver]
    refine ⟨h.keys_nodup, fun key => ?_, h.serial_lt⟩
    -- A run that found nothing is not the latest one of any key.
    have hnot : ¬ (q.key = key ∧ (q.chain s.resolver.config).found.isSome = true) := by
      rw [found]
      exact fun hyes => nomatch hyes.2
    rw [Journal.latest?, if_neg hnot]
    exact h.entry key
  | made table stale found outcome resolver toolRuns files =>
    rw [if_neg (fun hyes => (hanswers.mp hyes).elim stale), resolver]
    refine ⟨Resolver.nodup_put h.keys_nodup _, fun key => ?_, fun e he => ?_⟩
    · simp only [Journal.latest?, Resolver.entry?_made]
      by_cases hkey : q.key = key
      · subst hkey
        rw [if_pos ⟨rfl, Option.isSome_of_eq_some found⟩, Resolver.entry?_put_self]
        exact .some ⟨rfl, rfl, found⟩
      · rw [if_neg fun hyes => hkey hyes.1, Resolver.entry?_put_of_ne _ (Ne.symm hkey)]
        exact h.entry key
    · rcases List.mem_cons.mp he with rfl | he
      · exact Nat.lt_succ_self _
      · exact Nat.lt_succ_of_lt (h.serial_lt e (List.mem_filter.mp he).1)

theorem Recorded.step (h : s.Recorded) (call : Call) : (s.step call).Recorded := by
  cases call with
  | files change => exact h.files _
  | build artifact template tool => exact h.build artifact template tool
  | invalidate path => exact h.invalidate path
  | clear => exact clear_recorded s

theorem Recorded.run (h : s.Recorded) (calls : List Call) : (s.run calls).Recorded := by
  induction calls generalizing s with
  | nil => exact h
  | cons call rest ih => exact ih (h.step call)

@[simp] theorem step_config (s : Session) (call : Call) :
    (s.step call).resolver.config = s.resolver.config := by
  cases call with
  | build artifact template tool =>
    simp only [step]
    cases Resolver.build_turn s.resolver ⟨s.files, artifact, template, tool⟩ with
    | kept e keeps outcome resolver toolRuns files => rw [resolver]
    | failed stale found outcome resolver toolRuns files => rw [resolver]
    | made table stale found outcome resolver toolRuns files => rw [resolver]; rfl
  | _ => rfl

theorem run_config (s : Session) (calls : List Call) :
    (s.run calls).resolver.config = s.resolver.config := by
  induction calls generalizing s with
  | nil => rfl
  | cons call rest ih => exact (ih (s.step call)).trans (step_config s call)

theorem Recorded.keeps_iff (h : s.Recorded) {q : Request} {e : CacheEntry} :
    s.resolver.Keeps q e ↔ e ∈ s.resolver.cache ∧ e.key = q.key ∧ e.changed = q.changed? := by
  constructor
  · intro keeps
    obtain ⟨hmem, hkey⟩ := (Resolver.entry?_eq_some_iff h.keys_nodup).mp keeps.entry
    exact ⟨hmem, hkey, keeps.changed⟩
  · rintro ⟨hmem, hkey, hchanged⟩
    exact ⟨(Resolver.entry?_eq_some_iff h.keys_nodup).mpr ⟨hmem, hkey⟩, hchanged⟩

/-- Every table in the cache has segments, since a chain found it. -/
theorem Recorded.table_ne_nil (h : s.Recorded) {e : CacheEntry} (he : e ∈ s.resolver.cache) :
    e.handle.content.table ≠ [] := by
  have rel := h.entry e.key
  rw [(Resolver.entry?_eq_some_iff h.keys_nodup).mpr ⟨he, rfl⟩] at rel
  generalize s.journal.latest? s.resolver.config e.key = latest at rel
  cases rel with
  | some left => exact Chain.table_ne_nil_of_found left.found

end Session

/-- How a resolver serves a request: by an entry for the key that has the time seen now, without
any change; or else by a run of the chain, whose table it gives out as a new one.  A request without
a table leaves the resolver as it is. -/
structure Request.Served (r : Resolver) (q : Request) : Prop where
  kept : ∀ e ∈ r.cache, e.key = q.key → e.changed = q.changed? →
    (q.build r).outcome = .ok e.handle ∧ (q.build r).resolver = r ∧ (q.build r).toolRuns = 0 ∧
      (q.build r).files = q.files
  ran : (∀ e ∈ r.cache, e.key = q.key → e.changed ≠ q.changed?) →
    (q.build r).outcome = (q.chain r.config).found.elim
        (.error (.notFound q.artifact.compiled)) (fun table => .ok ⟨r.made, table⟩) ∧
      (q.build r).toolRuns = (q.chain r.config).toolRuns ∧
      (q.build r).files = (q.chain r.config).files ∧
      ∀ e ∈ r.cache, (q.build r).outcome ≠ .ok e.handle
  failed : ∀ error, (q.build r).outcome = .error error → (q.build r).resolver = r

/-- Whether a call concerns the table of a key: it asks for it, drops its artifact's tables, or
drops all. -/
def Call.Concerns (key : CacheKey) : Call → Prop
  | .files _ => False
  | .build artifact template _ =>
    key.compiled = Path.components artifact.compiled ∧ key.template = template.name
  | .invalidate path => key.compiled = Path.components path
  | .clear => True

namespace Session

variable {s : Session}

theorem Recorded.served (h : s.Recorded) (q : Request) : q.Served s.resolver := by
  have fresh : ∀ table, ∀ e ∈ s.resolver.cache,
      (.ok ⟨s.resolver.made, table⟩ : Except MappingError Handle) ≠ .ok e.handle := by
    intro table e he heq
    have hlt := h.serial_lt e he
    rw [← Except.ok.inj heq] at hlt
    exact Nat.lt_irrefl _ hlt
  cases Resolver.build_turn s.resolver q with
  | kept e keeps outcome resolver toolRuns files =>
    obtain ⟨hmem, hkey, hchanged⟩ := h.keeps_iff.mp keeps
    refine ⟨fun d hd hdkey hdchanged => ?_, fun hall => absurd hchanged (hall e hmem hkey), ?_⟩
    · obtain rfl : e = d :=
        Option.some.inj (keeps.entry.symm.trans (h.keeps_iff.mpr ⟨hd, hdkey, hdchanged⟩).entry)
      exact ⟨outcome, resolver, toolRuns, files⟩
    · exact fun _ _ => resolver
  | failed stale found outcome resolver toolRuns files =>
    refine ⟨fun d hd hdkey hdchanged => absurd (h.keeps_iff.mpr ⟨hd, hdkey, hdchanged⟩) (stale d),
      fun _ => ⟨by rw [outcome, found]; rfl, toolRuns, files, fun e _ => ?_⟩, fun _ _ => resolver⟩
    rw [outcome]
    exact nofun
  | made table stale found outcome resolver toolRuns files =>
    refine ⟨fun d hd hdkey hdchanged => absurd (h.keeps_iff.mpr ⟨hd, hdkey, hdchanged⟩) (stale d),
      fun _ => ⟨by rw [outcome, found]; rfl, toolRuns, files, fun e he => ?_⟩,
      fun error herror => ?_⟩
    · rw [outcome]
      exact fresh table e he
    · rw [outcome] at herror
      cases herror

/-- A call changes the entries only of the keys that it concerns. -/
theorem entry?_step (s : Session) {call : Call} {key : CacheKey} (h : ¬ call.Concerns key) :
    Resolver.entry? (s.step call).resolver key = s.resolver.entry? key := by
  cases call with
  | files change => rfl
  | build artifact template tool =>
    simp only [step]
    cases Resolver.build_turn s.resolver ⟨s.files, artifact, template, tool⟩ with
    | kept e keeps outcome resolver toolRuns files => rw [resolver]
    | failed stale found outcome resolver toolRuns files => rw [resolver]
    | made table stale found outcome resolver toolRuns files =>
      have hkey : key ≠ Request.key ⟨s.files, artifact, template, tool⟩ := by
        rintro rfl
        exact h ⟨rfl, rfl⟩
      rw [resolver, Resolver.entry?_made]
      exact Resolver.entry?_put_of_ne _ hkey
  | invalidate path => exact (Resolver.entry?_invalidate ..).trans (if_neg h)
  | clear => exact absurd trivial h

/-- After every session the cache is what the journal finds, with a table of segments in every
entry; the chain runs on a request exactly when no entry for the components of the compiled path and
the name of the template has the time that the compiled file has now, or else the generated source;
invalidation removes the entries of the artifact at a path and no others; and a call leaves the
entries of the keys that it does not concern. -/
theorem run_recorded (config : Config) (files : FileSystem) (calls : List Call) :
    let s := (start config files).run calls
    (s.resolver.config = config ∧ s.Recorded ∧
      ∀ e ∈ s.resolver.cache, e.handle.content.table ≠ []) ∧
    (∀ artifact template tool, let q : Request := ⟨s.files, artifact, template, tool⟩
      (s.journal.answers config q = false ↔ ∀ e ∈ s.resolver.cache,
        e.key = ⟨Path.components artifact.compiled, template.name⟩ →
          e.changed ≠ (s.files.changed? artifact.compiled).or
            (s.files.changed? artifact.generated)) ∧ q.Served s.resolver) ∧
    (∀ path e, e ∈ (s.resolver.invalidate path).cache ↔
      e ∈ s.resolver.cache ∧ e.key.compiled ≠ Path.components path) ∧
    ∀ call key, ¬ Call.Concerns key call →
      Resolver.entry? (s.step call).resolver key = s.resolver.entry? key := by
  intro s
  have h : s.Recorded := (start_recorded config files).run calls
  have hconfig : s.resolver.config = config := run_config (start config files) calls
  refine ⟨⟨hconfig, h, fun e => h.table_ne_nil⟩, fun artifact template tool => ⟨?_, h.served _⟩,
    fun path e => Resolver.mem_invalidate, fun call key => s.entry?_step⟩
  rw [← hconfig, ← Bool.not_eq_true, h.answers_iff]
  simp only [h.keeps_iff, not_exists, not_and, Request.key, Request.changed?]

/-- The empty artifact and its empty source, changed at one time. -/
def sample : FileSystem :=
  (FileSystem.empty.write "a.class".toList [] (.dated 5 0)).write "a.java".toList [] (.dated 5 0)

/-- A request for the table of the sample's artifact and the source at a path, with no tool. -/
def sampleRequest (generated : String) : Request :=
  ⟨sample, ⟨"a.class".toList, generated.toList⟩, ⟨"a.jsp".toList⟩, .always (.error .noCommand)⟩

/-- The call that makes the request with the source that there is. -/
def sampleCall : Call :=
  let q := sampleRequest "a.java"
  .build q.artifact q.template q.tool

/-- A blob with one record. -/
def sampleBlob : Bytes := Utf8.encode "SMAP\n*L\n1:10\n*E".toList

/-- The sample with the blob in its artifact, written a second later. -/
def changedSample : FileSystem := sample.write "a.class".toList sampleBlob (.dated 6 0)

/-- The call that writes the blob. -/
def changeCall : Call := .files (·.write "a.class".toList sampleBlob (.dated 6 0))

/-- The request is made before the blob is written and after it. -/
def sampleCalls : List Call := [sampleCall, changeCall, sampleCall]

/-- The second run has replaced the entry of the first one.  The request is answered by it from then
on; the artifact under another spelling of its path drops it, and another artifact does not. -/
theorem sample_run_recorded :
    let s := (start .standard sample).run sampleCalls
    let q : Request := { sampleRequest "a.java" with files := s.files }
    let key : CacheKey := ⟨[.name "a.class".toList], "a.jsp".toList⟩
    let e : CacheEntry := ⟨key, some (.dated 6 0), ⟨1, ⟨.embeddedBlob, [Segment.single 1 10]⟩⟩⟩
    s.resolver.cache = [e] ∧
    s.journal.answers .standard q = true ∧ (q.build s.resolver).outcome = .ok e.handle ∧
    e ∉ (s.resolver.invalidate "a.class/.".toList).cache ∧
    Resolver.entry? (s.step (.invalidate "b.class".toList)).resolver key = some e := by
  intro s q key e
  obtain ⟨-, hrequest, hinvalidate, hframe⟩ := run_recorded .standard sample sampleCalls
  obtain ⟨hanswers, hserved⟩ := hrequest q.artifact q.template q.tool
  have hcache : s.resolver.cache = [e] := by decide +kernel
  have hmem : e ∈ s.resolver.cache := by simp [hcache]
  have htime : e.changed = q.changed? := by decide +kernel
  have hanswered : s.journal.answers .standard q = true := by
    refine eq_true_of_ne_false fun hstale => ?_
    exact hanswers.mp hstale e hmem rfl htime
  have hother : ¬ Call.Concerns key (.invalidate "b.class".toList) := by
    unfold Call.Concerns
    decide
  refine ⟨hcache, hanswered, (hserved.kept e hmem rfl htime).1, fun hkept => ?_, ?_⟩
  · exact ((hinvalidate _ e).mp hkept).2 (by decide)
  · rw [hframe _ key hother]
    unfold Resolver.entry?
    simp [s, hcache, e]

end Session

end TemplateMap
