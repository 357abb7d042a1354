import TemplateMap.Config
import TemplateMap.Proofs.Text.Ascii
import TemplateMap.Proofs.Tool.Outcome

/-! The race that a supervision takes part in.  The child writes and exits, others may hold its
output after it, a reader takes the output away and tells when it is done, the time passes, and
someone may cancel; the supervision sees some of this, in some order.  Whatever the order is, an
output that is given is the whole output of a child that has succeeded, and a child is never left
behind. -/

namespace TemplateMap.Tool

variable {terms : Terms} {seen : List Sighting} {sighting : Sighting} {ending : Ending}
  {output : Bytes} {status : Status}

/-- A child that has been started. -/
inductive Child
  | running
  /-- It has exited, and has not been waited for. -/
  | exited (status : Status)
  | reaped (status : Status)
  deriving DecidableEq

/-- What becomes of a child to which something is done. -/
def Action.perform : Action → Child → Child
  | .kill, .running => .exited (.signal 9)
  | .wait, .exited status => .reaped status
  | _, child => child

/-- What becomes of a child to which some things are done. -/
def Child.after (child : Child) (actions : List Action) : Child :=
  actions.foldl (fun child action => action.perform child) child

/-- What a supervision does at its end. -/
def Watch.actions : Watch → List Action
  | .done ending => ending.actions
  | _ => []

/-- The end of a supervision has the child waited for. -/
theorem Outcome.reaps {child : Child} (h : Outcome terms seen ending)
    (hexited : ∀ status, .exited status ∈ seen → child = .exited status)
    (hopen : ∀ status, child ≠ .reaped status) :
    ∃ status, child.after ending.actions = .reaped status := by
  cases h with
  | abandoned e =>
    cases child with
    | running => exact ⟨.signal 9, rfl⟩
    | exited status => exact ⟨status, rfl⟩
    | reaped status => exact absurd rfl (hopen status)
  | @finished output status _ _ _ hexit hending =>
    obtain rfl := Watch.done.inj hending
    rw [hexited status hexit]
    exact ⟨status, rfl⟩

/-- A child that has exited keeps its status. -/
theorem Child.after_of_exited {child : Child} (h : child = .exited status ∨ child = .reaped status)
    (actions : List Action) :
    child.after actions = .exited status ∨ child.after actions = .reaped status := by
  induction actions generalizing child with
  | nil => exact h
  | cons action actions ih =>
    refine ih ?_
    rcases h with rfl | rfl <;> cases action <;> simp [Action.perform]

/-- How many bytes the reader takes at most: one more than the limit, as far as a word goes. -/
def readCap (limit : Nat) : Nat := min (limit + 1) Config.maxWord

/-- How many bytes a buffer holds at most. -/
def maxBuffer : Nat := 9223372036854775807

theorem maxBuffer_lt : maxBuffer < Config.maxWord := by decide

/-- A supervision and those it races with. -/
structure Race where
  /-- What has been written to the output so far. -/
  written : Bytes
  /-- No one holds the output any more to write to it. -/
  closed : Bool
  /-- How many bytes the reader has taken. -/
  taken : Nat
  /-- What the reader has told. -/
  message : Option (Except Text Bytes)
  child : Child
  late : Bool
  cancelled : Bool
  /-- The supervision asks whether the child has exited, and does not wait for something else. -/
  asks : Bool
  watch : Watch

namespace Race

/-- The race when the child has been started. -/
def start : Race where
  written := []
  closed := false
  taken := 0
  message := none
  child := .running
  late := false
  cancelled := false
  asks := false
  watch := .reading none

/-- One move in a race in which nothing is seen. -/
inductive Moves (limit : Nat) : Race → Race → Prop
  | write {r : Race} (bytes : Bytes) : r.closed = false →
    Moves limit r { r with written := r.written ++ bytes }
  | close {r : Race} : Moves limit r { r with closed := true }
  | exit {r : Race} (status : Status) : r.child = .running →
    Moves limit r { r with child := .exited status }
  | expire {r : Race} : Moves limit r { r with late := true }
  | cancel {r : Race} : Moves limit r { r with cancelled := true }
  | take {r : Race} (n : Nat) : r.message = none → r.taken + n ≤ r.written.length →
    r.taken + n ≤ readCap limit → r.taken + n ≤ maxBuffer →
    Moves limit r { r with taken := r.taken + n }
  /-- The reader is done: it has taken what it may, or there is no more. -/
  | tell {r : Race} : r.message = none →
    r.taken = readCap limit ∨ r.closed = true ∧ r.taken = r.written.length →
    Moves limit r { r with message := some (.ok (r.written.take r.taken)) }
  /-- The output cannot be read, or the reader is gone. -/
  | fail {r : Race} (reason : Text) : r.message = none →
    Moves limit r { r with message := some (.error reason) }
  /-- The child is asked and has not exited. -/
  | pause {r : Race} : r.asks = true → r.child = .running → Moves limit r { r with asks := false }
  | wake {r : Race} {output : Bytes} : r.watch = .closing output →
    Moves limit r { r with asks := true }

/-- What a supervision that is under way can see.  An exit may be noted while the output is being
read. -/
inductive Shows : Race → Sighting → Prop
  | outputRead {r : Race} {known : Option Status} {output : Bytes} : r.watch = .reading known →
    r.message = some (.ok output) → Shows r (.outputRead output)
  | readFailed {r : Race} {known : Option Status} {reason : Text} : r.watch = .reading known →
    r.message = some (.error reason) → Shows r (.readFailed reason)
  | exitNoted {r : Race} {known : Option Status} {status : Status} : r.watch = .reading known →
    r.child = .exited status → Shows r (.exited status)
  | exited {r : Race} {output : Bytes} {status : Status} : r.watch = .closing output →
    r.asks = true → r.child = .exited status → Shows r (.exited status)
  | waitFailed {r : Race} {output : Bytes} (reason : Text) : r.watch = .closing output →
    r.asks = true → Shows r (.waitFailed reason)
  | deadline {r : Race} : (∀ ending, r.watch ≠ .done ending) → r.asks = false → r.late = true →
    Shows r .deadline
  | cancelled {r : Race} : (∀ ending, r.watch ≠ .done ending) → r.asks = false →
    r.cancelled = true → Shows r .cancelled

/-- The race after something has been seen, and what the supervision does about the child. -/
def see (terms : Terms) (r : Race) (sighting : Sighting) : Race :=
  let next := r.watch.step terms sighting
  { r with
    child := r.child.after next.actions
    asks := match next with
      | .closing _ => true
      | _ => false
    watch := next }

/-- The races that come to be, with what has been seen in them.  When the supervision has ended the
others go on. -/
inductive Run (terms : Terms) : List Sighting → Race → Prop
  | start : Run terms [] start
  | move {seen : List Sighting} {r r' : Race} : Run terms seen r → Moves terms.limit r r' →
    Run terms seen r'
  | see {seen : List Sighting} {r : Race} {sighting : Sighting} : Run terms seen r →
    Shows r sighting → Run terms (seen ++ [sighting]) (r.see terms sighting)

/-! ### What holds at all times -/

variable {r r' : Race}

theorem Moves.watch_eq {limit : Nat} (h : Moves limit r r') : r'.watch = r.watch := by
  cases h <;> rfl

theorem Shows.not_done (h : Shows r sighting) (ending : Ending) : r.watch ≠ .done ending := by
  cases h with
  | outputRead hwatch | readFailed hwatch | exitNoted hwatch | exited hwatch
  | waitFailed _ hwatch => simp [hwatch]
  | deadline hopen | cancelled hopen => exact hopen ending

/-- What is known in a race is what the sightings tell. -/
theorem Run.watch_eq (h : Run terms seen r) : Tool.watch terms seen = r.watch := by
  induction h with
  | start => rfl
  | move _ hmove ih => exact ih.trans hmove.watch_eq.symm
  | see _ _ ih =>
    rw [watch_append, ih]
    rfl

/-- The reader takes what has been written, and if it tells of an output within the limit, of all
that is ever written. -/
structure ReaderHolds (limit : Nat) (r : Race) : Prop where
  taken_le : r.taken ≤ r.written.length
  taken_le_buffer : r.taken ≤ maxBuffer
  whole : ∀ output, r.message = some (.ok output) → output.length ≤ limit →
    r.closed = true ∧ r.taken = r.written.length ∧ output = r.written

/-- A reader that has taken what it may has taken more than the limit. -/
theorem lt_of_eq_readCap {taken limit : Nat} (h : taken = readCap limit)
    (hbuffer : taken ≤ maxBuffer) : limit < taken := by
  have hlt := maxBuffer_lt
  unfold readCap at h
  omega

theorem Moves.readerHolds {limit : Nat} (h : Moves limit r r') (hr : ReaderHolds limit r) :
    ReaderHolds limit r' := by
  obtain ⟨hwritten, hbuffer, hwhole⟩ := hr
  cases h with
  | write bytes hopen =>
    refine ⟨?_, hbuffer, fun output hmessage hlimit => ?_⟩
    · simp only [List.length_append]
      omega
    · have hclosed := (hwhole output hmessage hlimit).1
      rw [hopen] at hclosed
      cases hclosed
  | close =>
    exact ⟨hwritten, hbuffer, fun output hmessage hlimit =>
      ⟨rfl, (hwhole output hmessage hlimit).2⟩⟩
  | take n hnone hle hcap hsize =>
    exact ⟨hle, hsize, fun output hmessage => nomatch hnone.symm.trans hmessage⟩
  | tell hnone hdone =>
    refine ⟨hwritten, hbuffer, fun output hmessage hlimit => ?_⟩
    obtain rfl := Except.ok.inj (Option.some.inj hmessage)
    rw [List.length_take, Nat.min_eq_left hwritten] at hlimit
    rcases hdone with hfull | ⟨hclosed, hall⟩
    · exact absurd hlimit (Nat.not_le.mpr (lt_of_eq_readCap hfull hbuffer))
    · exact ⟨hclosed, hall, by rw [hall, List.take_length]⟩
  | fail => exact ⟨hwritten, hbuffer, nofun⟩
  | exit | expire | cancel | pause | wake => exact ⟨hwritten, hbuffer, hwhole⟩

theorem Run.readerHolds (h : Run terms seen r) : ReaderHolds terms.limit r := by
  induction h with
  | start => exact ⟨Nat.le_refl 0, Nat.zero_le _, nofun⟩
  | move _ hmove ih => exact hmove.readerHolds ih
  | see _ _ ih => exact ⟨ih.taken_le, ih.taken_le_buffer, ih.whole⟩

/-- The child has been waited for exactly if the supervision is done, and what has been seen is
so. -/
structure WorldHolds (terms : Terms) (seen : List Sighting) (r : Race) : Prop where
  reaped_iff : (∃ status, r.child = .reaped status) ↔ ∃ ending, r.watch = .done ending
  outputRead : ∀ output, .outputRead output ∈ seen → r.message = some (.ok output)
  exited : ∀ status, .exited status ∈ seen → r.child = .exited status ∨ r.child = .reaped status
  deadline : .deadline ∈ seen → r.watch = .abandoned (.timedOut terms.program terms.timeout)
  cancelled : .cancelled ∈ seen → r.watch = .abandoned (.cancelled terms.program)

theorem Moves.worldHolds {limit : Nat} (h : Moves limit r r') (hr : WorldHolds terms seen r) :
    WorldHolds terms seen r' := by
  obtain ⟨hreaped, houtput, hexited, hdeadline, hcancelled⟩ := hr
  cases h with
  | exit status hrunning =>
    rw [hrunning] at hreaped hexited
    refine ⟨?_, houtput, fun s hs => absurd (hexited s hs) (by simp), hdeadline, hcancelled⟩
    rw [← hreaped]
    simp
  | tell hnone | fail _ hnone =>
    refine ⟨hreaped, fun output hmem => ?_, hexited, hdeadline, hcancelled⟩
    exact nomatch hnone.symm.trans (houtput output hmem)
  | write | close | expire | cancel | take | pause | wake =>
    exact ⟨hreaped, houtput, hexited, hdeadline, hcancelled⟩

/-- A supervision that is under way has not waited for the child. -/
theorem WorldHolds.not_reaped (hr : WorldHolds terms seen r) (h : Shows r sighting)
    (status : Status) : r.child ≠ .reaped status := by
  intro hchild
  obtain ⟨ending, hdone⟩ := hr.reaped_iff.mp ⟨status, hchild⟩
  exact h.not_done ending hdone

theorem WorldHolds.mem_outputRead (hr : WorldHolds terms seen r) (h : Shows r sighting)
    (hmem : .outputRead output ∈ seen ++ [sighting]) : r.message = some (.ok output) := by
  rcases List.mem_append.mp hmem with hold | hnew
  · exact hr.outputRead output hold
  · obtain rfl := List.mem_singleton.mp hnew
    cases h with
    | outputRead _ hmessage => exact hmessage

theorem WorldHolds.mem_exited (hr : WorldHolds terms seen r) (h : Shows r sighting)
    (hmem : .exited status ∈ seen ++ [sighting]) : r.child = .exited status := by
  rcases List.mem_append.mp hmem with hold | hnew
  · exact (hr.exited status hold).resolve_right (hr.not_reaped h status)
  · obtain rfl := List.mem_singleton.mp hnew
    cases h with
    | exitNoted _ hchild => exact hchild
    | exited _ _ hchild => exact hchild

theorem WorldHolds.see (hr : WorldHolds terms seen r) (h : Shows r sighting)
    (hjustified : (r.watch.step terms sighting).Justified terms (seen ++ [sighting])) :
    WorldHolds terms (seen ++ [sighting]) (r.see terms sighting) where
  reaped_iff := by
    unfold Race.see
    cases hnext : r.watch.step terms sighting with
    | reading known | closing output =>
      simp [Watch.actions, Child.after, hr.not_reaped h]
    | done ending =>
      rw [hnext] at hjustified
      obtain ⟨status, hchild⟩ :=
        Outcome.reaps hjustified (fun _ => hr.mem_exited h) (hr.not_reaped h)
      exact ⟨fun _ => ⟨ending, rfl⟩, fun _ => ⟨status, hchild⟩⟩
  outputRead output hmem := hr.mem_outputRead h hmem
  exited status hmem := Child.after_of_exited (.inl (hr.mem_exited h hmem)) _
  deadline hmem := by
    rcases List.mem_append.mp hmem with hold | hnew
    · exact absurd (hr.deadline hold) (h.not_done _)
    · obtain rfl := List.mem_singleton.mp hnew
      exact Watch.step_deadline h.not_done
  cancelled hmem := by
    rcases List.mem_append.mp hmem with hold | hnew
    · exact absurd (hr.cancelled hold) (h.not_done _)
    · obtain rfl := List.mem_singleton.mp hnew
      exact Watch.step_cancelled h.not_done

theorem Run.justified (h : Run terms seen r) : r.watch.Justified terms seen :=
  h.watch_eq ▸ watch_justified terms seen

theorem Run.worldHolds (h : Run terms seen r) : WorldHolds terms seen r := by
  induction h with
  | start => exact ⟨by simp [Race.start], nofun, nofun, nofun, nofun⟩
  | move _ hmove ih => exact hmove.worldHolds ih
  | see hrun hshows ih => exact ih.see hshows (hrun.justified.step _)

theorem Run.outcome_of_done (h : Run terms seen r) (hdone : r.watch = .done ending) :
    Outcome terms seen ending := by
  have hjustified := h.justified
  rwa [hdone] at hjustified

/-- A status that has been seen is that of the child. -/
theorem WorldHolds.status_eq {s : Status} (hr : WorldHolds terms seen r)
    (hreaped : r.child = .reaped status) (hseen : .exited s ∈ seen) : s = status := by
  have hchild := hr.exited s hseen
  rw [hreaped] at hchild
  simpa [eq_comm] using hchild

theorem Run.of_ok {text : Text} (h : Run terms seen r) (hdone : r.watch = .done ending)
    (hok : ending.result = .ok text) :
    r.closed = true ∧ r.taken = r.written.length ∧ r.written.length ≤ terms.limit ∧
      text = Utf8.decodeLossy r.written ∧
      ∃ status, status.isSuccess = true ∧ .exited status ∈ seen ∧ r.child = .reaped status := by
  have hworld := h.worldHolds
  obtain ⟨-, output, status, houtput, hlimit, hexit, hsuccess, rfl⟩ :=
    (h.outcome_of_done hdone).of_ok hok
  obtain ⟨hclosed, htaken, rfl⟩ := h.readerHolds.whole output (hworld.outputRead _ houtput) hlimit
  obtain ⟨s, hreaped⟩ := hworld.reaped_iff.mpr ⟨ending, hdone⟩
  obtain rfl := hworld.status_eq hreaped hexit
  exact ⟨hclosed, htaken, hlimit, rfl, status, hsuccess, hexit, hreaped⟩

/-- A supervision that has ended with a text has seen neither the deadline nor a cancelling. -/
theorem Run.not_interrupted {text : Text} (h : Run terms seen r) (hdone : r.watch = .done ending)
    (hok : ending.result = .ok text) : .deadline ∉ seen ∧ .cancelled ∉ seen := by
  have hwatch : ∀ e, r.watch ≠ .abandoned e := by
    intro e heq
    obtain rfl := Watch.done.inj (hdone.symm.trans heq)
    cases hok
  exact ⟨fun hmem => hwatch _ (h.worldHolds.deadline hmem),
    fun hmem => hwatch _ (h.worldHolds.cancelled hmem)⟩

/-- However a race goes, once its supervision has ended: a text is given only if the output has been
closed and read to its end, is within the limit, and the child has exited with success, and it is
all of the output; an output that is or comes to be longer than the limit, a deadline that was seen,
a cancelling that was seen and a child that failed never give a text; and the child has been waited
for, after it was killed or was seen to have exited. -/
theorem Run.outcome (h : Run terms seen r) (hdone : r.watch = .done ending) :
    supervise terms seen = some ending ∧
    (∀ text, ending.result = .ok text →
      r.closed = true ∧ r.taken = r.written.length ∧ r.written.length ≤ terms.limit ∧
      text = Utf8.decodeLossy r.written ∧
      ∃ status, status.isSuccess = true ∧ .exited status ∈ seen ∧ r.child = .reaped status) ∧
    (terms.limit < r.written.length ∨ .deadline ∈ seen ∨ .cancelled ∈ seen ∨
        (∃ status, r.child = .reaped status ∧ status.isSuccess = false) →
      ∃ e, ending.result = .error e) ∧
    ∃ status, r.child = .reaped status ∧
      (ending.actions = [.kill, .wait] ∨ ending.actions = [.wait] ∧ .exited status ∈ seen) := by
  refine ⟨supervise_eq_some_iff.mpr (h.watch_eq.trans hdone), fun text => h.of_ok hdone,
    fun hnever => ?_, ?_⟩
  · cases hresult : ending.result with
    | error e => exact ⟨e, rfl⟩
    | ok text =>
      obtain ⟨-, -, hlimit, -, status, hsuccess, -, hchild⟩ := h.of_ok hdone hresult
      obtain ⟨hdeadline, hcancelled⟩ := h.not_interrupted hdone hresult
      rcases hnever with hlong | hmem | hmem | ⟨s, hreaped, hfailed⟩
      · exact absurd hlimit (Nat.not_le.mpr hlong)
      · exact absurd hmem hdeadline
      · exact absurd hmem hcancelled
      · obtain rfl := Child.reaped.inj (hchild.symm.trans hreaped)
        exact absurd hsuccess (by simp [hfailed])
  · obtain ⟨status, hreaped⟩ := h.worldHolds.reaped_iff.mpr ⟨ending, hdone⟩
    refine ⟨status, hreaped, ?_⟩
    cases h.outcome_of_done hdone with
    | abandoned e => exact .inl rfl
    | finished _ _ hexit hending =>
      obtain rfl := Watch.done.inj hending
      obtain rfl := h.worldHolds.status_eq hreaped hexit
      exact .inr ⟨rfl, hexit⟩

/-- The race in which a child has written an output, closed it and exited, and was waited for. -/
def finished (terms : Terms) (content : Bytes) (status : Status) : Race :=
  { start with
    written := content
    closed := true
    taken := content.length
    message := some (.ok content)
    child := .reaped status
    watch := .finished terms content status }

/-- An output up to the limit can be given. -/
theorem run_finished (terms : Terms) (content : Bytes) (status : Status)
    (hlimit : content.length ≤ terms.limit) (hbuffer : content.length ≤ maxBuffer) :
    Run terms [.outputRead content, .exited status] (finished terms content status) := by
  have hcap : content.length ≤ readCap terms.limit := by
    have hlt := maxBuffer_lt
    unfold readCap
    omega
  let told : Race :=
    { start with written := content, closed := true, taken := content.length,
                 message := some (.ok content) }
  have htold : Run terms [] told := by
    have hread := ((Run.start.move (.write content rfl)).move .close).move
      (.take content.length rfl (by simp [start]) (by simpa [start]) (by simpa [start]))
    simpa [told, start] using hread.move (.tell rfl (.inr ⟨rfl, by simp [start]⟩))
  have hexited : Run terms [] { told with child := .exited status } := htold.move (.exit status rfl)
  have hclosing : Run terms [.outputRead content]
      { told with child := .exited status, asks := true, watch := .closing content } := by
    have hsee := hexited.see (.outputRead rfl rfl)
    simpa [Race.see, told, start, Watch.step, Watch.actions, Child.after, hlimit,
      Nat.not_lt.mpr hlimit] using hsee
  exact hclosing.see (.exited rfl rfl rfl)

/-- Terms with a limit of two bytes. -/
def pairTerms : Terms := ⟨"sh".toList, 1000, 2⟩

/-- A race in which the output is as long as the limit. -/
def pairRace : Race := finished pairTerms (Utf8.encode "hi".toList) (.code 0)

theorem pairRace_outcome :
    Run pairTerms [.outputRead (Utf8.encode "hi".toList), .exited (.code 0)] pairRace ∧
    pairRace.watch = .done ⟨.ok "hi".toList, [.wait]⟩ ∧
    supervise pairTerms [.outputRead (Utf8.encode "hi".toList), .exited (.code 0)] =
      some ⟨.ok "hi".toList, [.wait]⟩ ∧
    pairRace.written.length = pairTerms.limit ∧ pairRace.child = .reaped (.code 0) := by
  have hrun := run_finished pairTerms (Utf8.encode "hi".toList) (.code 0) (by decide) (by decide)
  have hdone : pairRace.watch = .done ⟨.ok "hi".toList, [.wait]⟩ := by
    have htext : Utf8.decodeLossy (Utf8.encode "hi".toList) = "hi".toList :=
      Utf8.decodeLossy_encode (by decide)
    simp only [pairRace, finished, Watch.finished, htext]
    rfl
  exact ⟨hrun, hdone, (hrun.outcome hdone).1, rfl, rfl⟩

end Race

end TemplateMap.Tool
