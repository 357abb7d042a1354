import TemplateMap.Proofs.Resolver.Session

/-! When a cache can be told from an empty one.  A resolver answers with what the chain finds in the
latest run for the key that saw the time seen now, or else in a new run.  In sessions in which no
file has other bytes with the same time, and in which the tool's answer depends on the artifact
alone, this is what a new resolver answers, unless the run was for another generated source, or one
of the two files had another time: the times that are compared are those of one file only. -/

namespace TemplateMap

/-- A tool whose answer depends on the path and the bytes of the artifact alone, and that leaves all
files as they are. -/
structure Tool.FixedBy (answer : Path → Bytes → Except ToolError Text) (tool : Tool) : Prop where
  output : ∀ files path bytes, files.content? path = some bytes →
    (tool files path).output = answer path bytes
  files : ∀ files path, (tool files path).files = files

/-- A call that runs no other tool. -/
def Call.FixedBy (answer : Path → Bytes → Except ToolError Text) : Call → Prop
  | .build _ _ tool => tool.FixedBy answer
  | _ => True

/-- Moments among which every file with the same time has the same bytes. -/
def Dated (moments : List FileSystem) : Prop :=
  ∀ fs ∈ moments, ∀ fs' ∈ moments, fs.Agree fs'

namespace Request

/-- What a resolver answers, apart from which run of the chain made it. -/
def content (q : Request) (r : Resolver) : Except MappingError TierTable :=
  (q.build r).outcome.map Handle.content

/-- An earlier request saw what a later one sees: the same generated source, the same time of each
of the two files, and a path of the artifact to which the tool answers the same. -/
structure SeenBy (answer : Path → Bytes → Except ToolError Text) (run q : Request) : Prop where
  generated : Path.components run.artifact.generated = Path.components q.artifact.generated
  compiledTime : run.files.changed? run.artifact.compiled = q.files.changed? q.artifact.compiled
  generatedTime : run.files.changed? run.artifact.generated = q.files.changed? q.artifact.generated
  tool : answer run.artifact.compiled = answer q.artifact.compiled

/-- Without an entry that is kept for it, a request gets what the chain finds. -/
theorem content_of_stale {r : Resolver} {q : Request} (stale : ∀ e, ¬ r.Keeps q e) :
    q.content r = (q.chain r.config).found.elim (.error (.notFound q.artifact.compiled)) .ok := by
  unfold content
  cases Resolver.build_turn r q with
  | kept e keeps => exact absurd keeps (stale e)
  | failed stale found outcome => rw [outcome, found]; rfl
  | made table stale found outcome => rw [outcome, found]; rfl

theorem content_new (config : Config) (q : Request) :
    q.content (.new config) =
      (q.chain config).found.elim (.error (.notFound q.artifact.compiled)) .ok :=
  content_of_stale fun _ keeps => nomatch keeps.entry

theorem content_of_keeps {r : Resolver} {q : Request} {e : CacheEntry} (keeps : r.Keeps q e) :
    q.content r = .ok e.handle.content := by
  unfold content
  cases Resolver.build_turn r q with
  | kept d keeps' outcome =>
    obtain rfl : e = d := Option.some.inj (keeps.entry.symm.trans keeps'.entry)
    rw [outcome]
    rfl
  | failed stale => exact absurd keeps (stale e)
  | made table stale => exact absurd keeps (stale e)

end Request

namespace Request

variable {answer : Path → Bytes → Except ToolError Text} {run q : Request}

/-- The chain finds the same for two requests with one key of which the one saw what the other
sees. -/
theorem SeenBy.found_eq (h : run.SeenBy answer q) (hkey : run.key = q.key)
    (hagree : run.files.Agree q.files) (htool : run.tool.FixedBy answer)
    (htool' : q.tool.FixedBy answer) (config : Config) :
    (run.chain config).found = (q.chain config).found := by
  have hcompiled : run.files.content? run.artifact.compiled =
      q.files.content? q.artifact.compiled :=
    hagree.content?_eq (congrArg CacheKey.compiled hkey) h.compiledTime
  have hgenerated := hagree.content?_eq h.generated h.generatedTime
  have htemplate : run.template = q.template :=
    congrArg (fun key => (⟨key.template⟩ : Template)) hkey
  refine Chain.found_standard_congr hcompiled ?_ htemplate fun hreadable => ?_
  · exact congrArg (Option.map Utf8.decodeLossy) hgenerated
  · obtain ⟨bytes, hbytes⟩ := Option.ne_none_iff_exists'.mp hreadable
    have hout := htool.output _ _ bytes hbytes
    have hout' := htool'.output _ _ bytes (hcompiled.symm.trans hbytes)
    exact hout.trans ((congrFun h.tool bytes).trans hout'.symm)

/-- A request changes no files but by its tool. -/
theorem files_build (htool : q.tool.FixedBy answer) (r : Resolver) :
    (q.build r).files = q.files := by
  have hchain : (q.chain r.config).files = q.files :=
    Chain.files_standard r.config htool.files _
  cases Resolver.build_turn r q with
  | kept e keeps outcome resolver toolRuns files => exact files
  | failed stale found outcome resolver toolRuns files => exact files.trans hchain
  | made table stale found outcome resolver toolRuns files => exact files.trans hchain

end Request

namespace Journal

theorem mem_of_latest? {config : Config} {key : CacheKey} {run : Request} {j : Journal}
    (h : j.latest? config key = some run) : .ran run ∈ j ∧ run.key = key := by
  induction j with
  | nil => cases h
  | cons record older ih =>
    cases record with
    | ran q =>
      rw [latest?] at h
      split at h
      next hran =>
        cases h
        exact ⟨List.mem_cons_self, hran.1⟩
      next => exact (ih h).imp_left (List.mem_cons_of_mem _)
    | dropped compiled =>
      rw [latest?] at h
      split at h
      · cases h
      · exact (ih h).imp_left (List.mem_cons_of_mem _)
    | cleared => cases h

/-- The run that answers a request: the latest one for its key if it saw the time that the request
sees, and else one on the request itself. -/
def answering (config : Config) (q : Request) (j : Journal) : Request :=
  ((j.latest? config q.key).filter fun run => run.changed? = q.changed?).getD q

theorem answering_cases (config : Config) (q : Request) (j : Journal) :
    j.answering config q = q ∨
      (j.latest? config q.key = some (j.answering config q) ∧
        (j.answering config q).changed? = q.changed?) := by
  unfold answering
  cases hlatest : j.latest? config q.key with
  | none => exact .inl rfl
  | some run =>
    by_cases htime : run.changed? = q.changed?
    · exact .inr (by simp [Option.filter, htime])
    · exact .inl (by simp [Option.filter, htime])

end Journal

namespace Session

variable {s : Session} {run : Request}

/-- The files at every moment of a session, from before its first call to after its last. -/
def moments (s : Session) : List Call → List FileSystem
  | [] => [s.files]
  | call :: rest => s.files :: (s.step call).moments rest

theorem files_mem_moments (s : Session) (calls : List Call) :
    (s.run calls).files ∈ s.moments calls := by
  induction calls generalizing s with
  | nil => exact List.mem_singleton_self _
  | cons call rest ih => exact List.mem_cons_of_mem _ (ih (s.step call))

/-- A run that a call notes is one on its own request, among the files before it. -/
theorem ran_of_step {call : Call} (h : .ran run ∈ (s.step call).journal) :
    .ran run ∈ s.journal ∨
      (run.files = s.files ∧ call = .build run.artifact run.template run.tool) := by
  cases call with
  | files change => exact .inl h
  | build artifact template tool =>
    simp only [step, Journal.request] at h
    split at h
    · exact .inl h
    · rcases List.mem_cons.mp h with heq | h
      · cases heq
        exact .inr ⟨rfl, rfl⟩
      · exact .inl h
  | invalidate path =>
    rcases List.mem_cons.mp h with heq | h
    · cases heq
    · exact .inl h
  | clear =>
    rcases List.mem_cons.mp h with heq | h
    · cases heq
    · exact .inl h

/-- Every run that a session notes is on a request of one of its calls, at one of its moments. -/
theorem ran_of_run {calls : List Call} (h : .ran run ∈ (s.run calls).journal) :
    .ran run ∈ s.journal ∨
      (run.files ∈ s.moments calls ∧ .build run.artifact run.template run.tool ∈ calls) := by
  induction calls generalizing s with
  | nil => exact .inl h
  | cons call rest ih =>
    rcases ih (s := s.step call) h with h | ⟨hfiles, hcall⟩
    · rcases ran_of_step h with h | ⟨hfiles, rfl⟩
      · exact .inl h
      · exact .inr ⟨hfiles ▸ List.mem_cons_self, List.mem_cons_self⟩
    · exact .inr ⟨List.mem_cons_of_mem _ hfiles, List.mem_cons_of_mem _ hcall⟩

/-- A resolver answers a request with what the chain finds in the run that answers it. -/
theorem Recorded.content_eq (h : s.Recorded) (q : Request) :
    q.content s.resolver =
      ((s.journal.answering s.resolver.config q).chain s.resolver.config).found.elim
        (.error (.notFound q.artifact.compiled)) .ok := by
  by_cases hkeeps : ∃ e, s.resolver.Keeps q e
  · obtain ⟨e, keeps⟩ := hkeeps
    have rel := h.entry q.key
    rw [keeps.entry] at rel
    unfold Journal.answering
    generalize s.journal.latest? s.resolver.config q.key = latest at rel
    cases rel with
    | some left =>
      have htime := left.changed.symm.trans keeps.changed
      simp [Request.content_of_keeps keeps, Option.filter, htime, left.found]
  · rw [Request.content_of_stale (not_exists.mp hkeeps)]
    rcases s.journal.answering_cases s.resolver.config q with hself | ⟨hlatest, htime⟩
    · rw [hself]
    · refine absurd ((h.answers_iff q).mp ?_) hkeeps
      simp [Journal.answers, hlatest, htime]

/-- After a session a resolver answers with what the chain finds in the run that answers.  If no
file had other bytes with the same time and the tool's answer depends on the artifact alone, this is
what a new resolver answers, whether the run is a new one or an earlier one that saw the same. -/
theorem content_eq_new (config : Config) (files : FileSystem) (calls : List Call)
    (answer : Path → Bytes → Except ToolError Text)
    (hdated : Dated ((start config files).moments calls))
    (hcalls : ∀ call ∈ calls, call.FixedBy answer)
    (artifact : Artifact) (template : Template) (tool : Tool) (htool : tool.FixedBy answer) :
    let s := (start config files).run calls
    let q : Request := ⟨s.files, artifact, template, tool⟩
    let run := s.journal.answering config q
    q.content s.resolver =
      (run.chain config).found.elim (.error (.notFound artifact.compiled)) .ok ∧
    (run = q ∨ run.SeenBy answer q → q.content s.resolver = q.content (.new config)) := by
  intro s q run
  have hrecorded : s.Recorded := (start_recorded config files).run calls
  have hconfig : s.resolver.config = config := run_config (start config files) calls
  have hcontent := hrecorded.content_eq q
  rw [hconfig] at hcontent
  refine ⟨hcontent, fun hsame => ?_⟩
  rw [hcontent, Request.content_new]
  rcases s.journal.answering_cases config q with hself | ⟨hlatest, -⟩
  · rw [hself]
  · rcases hsame with hself | hseen
    · rw [show s.journal.answering config q = q from hself]
    · -- The run was made at an earlier moment of this session, with a tool that is fixed too.
      obtain ⟨hran, hkey⟩ := Journal.mem_of_latest? hlatest
      obtain ⟨hfiles, hcall⟩ := (ran_of_run hran).resolve_left List.not_mem_nil
      have hagree := hdated _ hfiles _ (files_mem_moments _ calls)
      rw [hseen.found_eq hkey hagree (hcalls _ hcall) htool config]

theorem files_step {answer : Path → Bytes → Except ToolError Text} {call : Call}
    (hfixed : call.FixedBy answer) (hfiles : ∀ change, call ≠ .files change) :
    (s.step call).files = s.files := by
  cases call with
  | files change => exact absurd rfl (hfiles change)
  | build artifact template tool =>
    have htool : tool.FixedBy answer := hfixed
    exact Request.files_build htool s.resolver
  | invalidate path => rfl
  | clear => rfl

theorem sample_fixedBy : (Tool.always (.error .noCommand)).FixedBy fun _ _ => .error .noCommand :=
  ⟨fun _ _ _ _ => rfl, fun _ _ => rfl⟩

theorem sampleCall_files (s : Session) : (s.step sampleCall).files = s.files :=
  files_step sample_fixedBy nofun

theorem changeCall_files {s : Session} (h : s.files = sample) :
    (s.step changeCall).files = changedSample := by
  rw [changedSample, ← h]
  rfl

theorem sample_moments : (start .standard sample).moments sampleCalls =
    [sample, sample, changedSample, changedSample] := by
  simp only [sampleCalls, moments, sampleCall_files, changeCall_files, start]

theorem sample_files : ((start .standard sample).run sampleCalls).files = changedSample := by
  simp only [sampleCalls, run, List.foldl, sampleCall_files, changeCall_files, start]

theorem sample_agree : sample.Agree changedSample := by
  let e : FileEntry := ⟨["a.class".toList], .file ⟨sampleBlob.toArray⟩, .dated 6 0⟩
  have hput : changedSample = sample.put e := rfl
  have hold : sample.node? e.place = some (.file ⟨#[]⟩) := rfl
  have htime : sample.changedAt? e.place ≠ some e.changed := by decide +kernel
  rw [hput]
  exact FileSystem.agree_put hold rfl htime

theorem sample_dated : Dated ((start .standard sample).moments sampleCalls) := by
  have heither : ∀ fs ∈ (start .standard sample).moments sampleCalls,
      fs = sample ∨ fs = changedSample := by
    simp [sample_moments]
  intro fs hfs fs' hfs'
  rcases heither fs hfs with rfl | rfl <;> rcases heither fs' hfs' with rfl | rfl
  · exact .refl _
  · exact sample_agree
  · exact sample_agree.symm
  · exact .refl _

theorem sampleCalls_fixedBy : ∀ call ∈ sampleCalls, call.FixedBy fun _ _ => .error .noCommand := by
  simp only [sampleCalls, List.forall_mem_cons]
  exact ⟨sample_fixedBy, trivial, sample_fixedBy, nofun⟩

/-- After the change the second request has been answered by a run of its own, and the same request
once more is answered by that run, with the blob as a new resolver finds it; before the change it
was answered otherwise. -/
theorem sample_content_eq_new :
    let s := (start .standard sample).run sampleCalls
    let q : Request := { sampleRequest "a.java" with files := s.files }
    Dated ((start .standard sample).moments sampleCalls) ∧
    s.resolver.made = 2 ∧ s.journal.answers .standard q = true ∧
    (sampleRequest "a.java").content (.new .standard) ≠ q.content s.resolver ∧
    q.content s.resolver = .ok ⟨.embeddedBlob, [Segment.single 1 10]⟩ ∧
    q.content s.resolver = q.content (.new .standard) := by
  intro s q
  refine ⟨sample_dated, by decide +kernel, by decide +kernel, by decide +kernel, by decide +kernel,
    ?_⟩
  refine (content_eq_new .standard sample sampleCalls _ sample_dated sampleCalls_fixedBy q.artifact
    q.template q.tool sample_fixedBy).2 ?_
  rcases s.journal.answering_cases .standard q with hself | ⟨hlatest, htime⟩
  · exact .inl hself
  · -- The run that answers saw the time after the change, so it is not the first one.
    refine .inr ?_
    obtain ⟨hran, -⟩ := Journal.mem_of_latest? hlatest
    obtain ⟨hfiles, hcall⟩ := (ran_of_run hran).resolve_left List.not_mem_nil
    generalize s.journal.answering .standard q = run at hfiles hcall htime ⊢
    have hartifact : run.artifact = q.artifact := by
      have heq : Call.build run.artifact run.template run.tool = sampleCall := by
        simpa [sampleCalls, changeCall] using hcall
      exact (Call.build.inj heq).1
    have hsame : run.files = q.files := by
      have hnow : q.files = changedSample := sample_files
      have heither : run.files = sample ∨ run.files = changedSample := by
        simpa [sample_moments] using hfiles
      refine (heither.resolve_left fun hold => ?_).trans hnow.symm
      have hother : (sampleRequest "a.java").changed? ≠ q.changed? := by decide +kernel
      refine hother (Eq.trans ?_ htime)
      rw [Request.changed?, Request.changed?, hold, hartifact]
      rfl
    exact ⟨by rw [hartifact], by rw [hartifact, hsame], by rw [hartifact, hsame], rfl⟩

/-- Not so for all requests, even where no file ever changes. -/
theorem not_forall_content_eq_new : ¬ ∀ (config : Config) (files : FileSystem) (calls : List Call)
    (answer : Path → Bytes → Except ToolError Text) (artifact : Artifact) (template : Template)
    (tool : Tool), Dated ((start config files).moments calls) →
    (∀ call ∈ calls, call.FixedBy answer) → tool.FixedBy answer →
    let s := (start config files).run calls
    let q : Request := ⟨s.files, artifact, template, tool⟩
    q.content s.resolver = q.content (.new config) := by
  intro h
  let s := (start .standard sample).run [sampleCall]
  let q := { sampleRequest "b.java" with files := s.files }
  have hdated : Dated ((start .standard sample).moments [sampleCall]) := by
    simp only [Dated, moments, sampleCall_files, List.mem_cons, List.not_mem_nil, or_false, or_self,
      forall_eq]
    exact .refl _
  have heq : q.content s.resolver = q.content (.new .standard) :=
    h .standard sample [sampleCall] _ q.artifact q.template q.tool hdated
      (List.forall_mem_singleton.mpr sample_fixedBy) sample_fixedBy
  have hkept : (q.content s.resolver).isOk = true := by decide +kernel
  have hnone : (q.content (.new .standard)).isOk = false := by decide +kernel
  rw [heq, hnone] at hkept
  cases hkept

end Session

end TemplateMap
