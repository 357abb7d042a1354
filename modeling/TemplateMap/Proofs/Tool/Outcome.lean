import Mathlib.Data.List.Induction
import TemplateMap.Tool.Command

/-! What the end of a supervision tells.  After any sightings in any order, a supervision has given
up on the child or has seen both an output within the limit and an exit; and the text that a command
gives is all that its program has written. -/

namespace TemplateMap.Tool

/-- How a supervision may end: it gives up on the child, which is killed and waited for, or it has
seen the output and the exit, and waits for the child. -/
inductive Outcome (terms : Terms) (seen : List Sighting) : Ending → Prop
  | abandoned (e : ToolError) : Outcome terms seen ⟨.error e, [.kill, .wait]⟩
  | finished {output : Bytes} {status : Status} {ending : Ending} :
    .outputRead output ∈ seen → output.length ≤ terms.limit → .exited status ∈ seen →
      Watch.finished terms output status = .done ending → Outcome terms seen ending

/-- What is known has been seen. -/
def Watch.Justified (terms : Terms) (seen : List Sighting) : Watch → Prop
  | .reading status => ∀ s ∈ status, .exited s ∈ seen
  | .closing output => .outputRead output ∈ seen ∧ output.length ≤ terms.limit
  | .done ending => Outcome terms seen ending

variable {terms : Terms} {seen : List Sighting} {sighting : Sighting} {ending : Ending}
  {w : Watch} {output : Bytes} {status : Status} {text : Text}

theorem Outcome.mono {more : List Sighting} (h : Outcome terms seen ending) (hsub : seen ⊆ more) :
    Outcome terms more ending := by
  cases h with
  | abandoned e => exact .abandoned e
  | finished houtput hlimit hexit hending =>
    exact .finished (hsub houtput) hlimit (hsub hexit) hending

namespace Watch

theorem finished_justified (houtput : .outputRead output ∈ seen)
    (hlimit : output.length ≤ terms.limit) (hexit : .exited status ∈ seen) :
    (finished terms output status).Justified terms seen :=
  Outcome.finished houtput hlimit hexit rfl

theorem abandoned_justified (e : ToolError) : (abandoned e).Justified terms seen :=
  Outcome.abandoned e

theorem Justified.step (h : w.Justified terms seen) (sighting : Sighting) :
    (w.step terms sighting).Justified terms (seen ++ [sighting]) := by
  have hsub : seen ⊆ seen ++ [sighting] := List.subset_append_left seen [sighting]
  have hnew : sighting ∈ seen ++ [sighting] :=
    List.mem_append_right seen (List.mem_singleton_self sighting)
  cases w with
  | done ending => exact h.mono hsub
  | closing output =>
    obtain ⟨houtput, hlimit⟩ := h
    cases sighting with
    | exited status => exact finished_justified (hsub houtput) hlimit hnew
    | outputRead _ | readFailed _ => exact ⟨hsub houtput, hlimit⟩
    | waitFailed _ | deadline | cancelled => exact abandoned_justified _
  | reading status =>
    cases sighting with
    | exited s => exact fun _ heq => Option.some.inj heq ▸ hnew
    | waitFailed _ => exact fun s hs => hsub (h s hs)
    | readFailed _ | deadline | cancelled => exact abandoned_justified _
    | outputRead output =>
      by_cases hlimit : terms.limit < output.length
      · simp only [Watch.step, if_pos hlimit]
        exact abandoned_justified _
      · have hle := Nat.le_of_not_lt hlimit
        simp only [Watch.step, if_neg hlimit]
        cases status with
        | some s => exact finished_justified hnew hle (hsub (h s rfl))
        | none => exact ⟨hnew, hle⟩

theorem step_deadline (h : ∀ ending, w ≠ .done ending) :
    w.step terms .deadline = .abandoned (.timedOut terms.program terms.timeout) := by
  cases w with
  | done ending => exact absurd rfl (h ending)
  | reading | closing => rfl

theorem step_cancelled (h : ∀ ending, w ≠ .done ending) :
    w.step terms .cancelled = .abandoned (.cancelled terms.program) := by
  cases w with
  | done ending => exact absurd rfl (h ending)
  | reading | closing => rfl

end Watch

theorem watch_append (terms : Terms) (seen : List Sighting) (sighting : Sighting) :
    watch terms (seen ++ [sighting]) = (watch terms seen).step terms sighting := by
  rw [watch, List.foldl_append]
  rfl

theorem watch_justified (terms : Terms) (seen : List Sighting) :
    (watch terms seen).Justified terms seen := by
  induction seen using List.reverseRecOn with
  | nil => exact nofun
  | append_singleton seen sighting ih =>
    rw [watch_append]
    exact ih.step sighting

theorem supervise_eq_some_iff :
    supervise terms seen = some ending ↔ watch terms seen = .done ending := by
  unfold supervise
  split
  next e heq => rw [heq, Option.some.injEq, Watch.done.injEq]
  next hopen => exact ⟨nofun, fun heq => absurd heq (hopen ending)⟩

/-- A text is given only for an output within the limit and an exit with success. -/
theorem Outcome.of_ok (h : Outcome terms seen ending) (hok : ending.result = .ok text) :
    ending.actions = [.wait] ∧ ∃ output status, .outputRead output ∈ seen ∧
      output.length ≤ terms.limit ∧ .exited status ∈ seen ∧ status.isSuccess = true ∧
      text = Utf8.decodeLossy output := by
  cases h with
  | abandoned e => cases hok
  | @finished output status _ houtput hlimit hexit hending =>
    obtain rfl := Watch.done.inj hending
    simp only at hok
    split at hok
    next hsuccess =>
      exact ⟨rfl, output, status, houtput, hlimit, hexit, hsuccess, (Except.ok.inj hok).symm⟩
    next => cases hok

/-! ### Traces -/

namespace Trace

theorem lt_of_excess? {limit before : Nat} {writes : List (Moment × Bytes)} {moment : Moment}
    (h : excess? limit before writes = some moment) :
    limit < before + (writes.flatMap Prod.snd).length := by
  induction writes generalizing before with
  | nil => cases h
  | cons first rest ih =>
    obtain ⟨_, bytes⟩ := first
    rw [List.flatMap_cons, List.length_append]
    simp only [excess?] at h ⊢
    split at h
    next hlt => omega
    next =>
      have hrest := ih h
      omega

variable {t : Trace} {cancel : Option Milliseconds}

theorem of_outputRead (h : .outputRead output ∈ t.sightings terms cancel)
    (hlimit : output.length ≤ terms.limit) :
    t.closed.isSome = true ∧ t.output.length ≤ terms.limit ∧ output = t.output := by
  obtain ⟨moment, hread⟩ : ∃ moment, t.read? terms.limit = some (moment, .outputRead output) := by
    simpa [sightings, timed] using h
  have hbytes : ∀ m, (m, Sighting.outputRead (readable terms.limit t.output)) =
      (moment, .outputRead output) → output = t.output.take (terms.limit + 1) := by
    intro m heq
    exact (Sighting.outputRead.inj (congrArg Prod.snd heq)).symm
  -- An output that was cut is longer than the limit.
  have hwhole : output = t.output.take (terms.limit + 1) →
      t.output.length ≤ terms.limit ∧ output = t.output := by
    rintro rfl
    rw [List.length_take] at hlimit
    exact ⟨by omega, List.take_of_length_le (by omega)⟩
  unfold read? at hread
  simp only at hread
  split at hread
  next m hexcess =>
    have hlong : terms.limit < 0 + t.output.length := lt_of_excess? hexcess
    have hshort := (hwhole (hbytes m (Option.some.inj hread))).1
    rw [Nat.zero_add] at hlong
    exact absurd hshort (Nat.not_le.mpr hlong)
  next =>
    obtain ⟨m, hclosed, heq⟩ := Option.map_eq_some_iff.mp hread
    exact ⟨by rw [hclosed]; rfl, hwhole (hbytes m heq)⟩

/-- A text that the supervision of a trace gives is all of its output. -/
theorem supervise_ok (h : supervise terms (t.sightings terms cancel) = some ending)
    (hok : ending.result = .ok text) :
    t.closed.isSome = true ∧ t.output.length ≤ terms.limit ∧ text = Utf8.decodeLossy t.output ∧
      ∃ moment status, t.ended = some (moment, status) ∧ status.isSuccess = true := by
  have houtcome : Outcome terms (t.sightings terms cancel) ending := by
    have hjustified := watch_justified terms (t.sightings terms cancel)
    rwa [supervise_eq_some_iff.mp h] at hjustified
  obtain ⟨-, output, status, houtput, hlimit, hexit, hsuccess, rfl⟩ := houtcome.of_ok hok
  obtain ⟨hclosed, hlength, rfl⟩ := of_outputRead houtput hlimit
  have hread : ∀ moment, t.read? terms.limit ≠ some (moment, .exited status) := by
    intro moment
    unfold read?
    simp only
    split <;> simp
  obtain ⟨moment, hended⟩ : ∃ moment, t.ended = some (moment, status) := by
    simpa [sightings, timed, hread] using hexit
  exact ⟨hclosed, hlength, rfl, moment, status, hended, hsuccess⟩

end Trace

/-- A text that a command gives is all of the output of the program that is launched for it, which is
within the limit; and the program has let go of its output and has ended with success. -/
theorem ofCommand_ok {launch : Launcher} {command : List Text} {timeout : Milliseconds}
    {limit : Nat} {cancel : Option Milliseconds} {files : FileSystem} {artifact : Path}
    (h : (ofCommand launch command timeout limit cancel files artifact).output = .ok text) :
    ∃ program arguments launched, command = program :: arguments ∧
      launch files program (arguments ++ [artifact]) limit (horizon timeout cancel) =
        .ok launched ∧
      let t := launched.trace
      t.closed.isSome = true ∧ t.output.length ≤ limit ∧ text = Utf8.decodeLossy t.output ∧
        ∃ moment status, t.ended = some (moment, status) ∧ status.isSuccess = true := by
  unfold ofCommand at h
  cases command with
  | nil => cases h
  | cons program arguments =>
    simp only at h
    split at h
    next => cases h
    next =>
      cases hlaunch : launch files program (arguments ++ [artifact]) limit
          (horizon timeout cancel) with
      | error e =>
        rw [hlaunch] at h
        cases h
      | ok launched =>
        rw [hlaunch] at h
        simp only at h
        refine ⟨program, arguments, launched, rfl, hlaunch, ?_⟩
        split at h
        next ending hending => exact Trace.supervise_ok hending h
        next => cases h

end TemplateMap.Tool
