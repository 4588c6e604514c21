import Phrasebook.Proofs.Subprocess.BoundedOutput
import Phrasebook.Subprocess.Run

/-!
# How a run is settled

The first failure or end settles a run, whatever else happens before or after it. What an end gives
is read off the events in front of it: the chunks of each stream in their order, and whether the
deadline is among them. So events of different streams can change places, and chunks can change
places with the other events, as long as none comes after the end of the process.

Results:
* `Watching.step`, `Watching.run`: the state while the run is not settled.
* `result_run`: a result stays.
* `settle_of_failed`, `settle_of_closed`: what the first failure or end gives.
* `settle_of_interleaving`: the order in which the streams are seen does not matter.
-/

namespace Phrasebook.Subprocess

namespace Event

/-- What an event adds to standard output. -/
def onStdout : Event → List UInt8
  | .stdout chunk => chunk
  | _ => []

/-- What an event adds to the error stream. -/
def onStderr : Event → List UInt8
  | .stderr chunk => chunk
  | _ => []

/-- The event is no chunk. -/
def isControl : Event → Bool
  | .stdout _ | .stderr _ => false
  | .deadline | .failed _ | .closed _ => true

/-- The event is the end of the process. -/
def isEnd : Event → Bool
  | .closed _ => true
  | _ => false

/-- The event settles a run. -/
def settles : Event → Bool
  | .failed _ | .closed _ => true
  | .stdout _ | .stderr _ | .deadline => false

theorem isControl_of_settles {e : Event} (h : e.settles = true) : e.isControl = true := by
  cases e <;> simp_all [settles, isControl]

end Event

/-- The bytes of standard output. -/
def stdoutBytes (events : List Event) : List UInt8 := events.flatMap Event.onStdout

/-- The bytes of the error stream. -/
def stderrBytes (events : List Event) : List UInt8 := events.flatMap Event.onStderr

/-- The events that are no chunks, in order. -/
def controls (events : List Event) : List Event := events.filter Event.isControl

/-- None of the events settles a run. -/
def Unsettled (events : List Event) : Prop := ∀ e ∈ events, e.settles = false

/-- The end of the process is seen when its streams are closed: no chunk comes after it. -/
def StreamsEnd (events : List Event) : Prop :=
  events.Pairwise fun d e => d.isEnd = true → e.isControl = true

/-! ## While the run is not settled -/

/-- The state of a run that is not settled, by the events seen so far. -/
structure Watching (limit : Nat) (seen : List Event) (r : Running) : Prop where
  stdout : BoundedOutput.Keeps limit (stdoutBytes seen) r.stdout
  stderr : BoundedOutput.Keeps limit (stderrBytes seen) r.stderr
  timedOut_iff : r.timedOut = true ↔ .deadline ∈ seen
  timer : r.timerCleared = false
  result : r.result = none

theorem watching_start (limit : Nat) : Watching limit [] (Running.start limit) :=
  ⟨BoundedOutput.keeps_nil limit, BoundedOutput.keeps_nil limit, by simp [Running.start], rfl, rfl⟩

section

variable {limit : Nat} {seen : List Event} {r : Running}

/-- An event that does not settle the run is added to those seen. -/
theorem Watching.step (h : Watching limit seen r) {e : Event} (he : e.settles = false) :
    Watching limit (seen ++ [e]) (r.step e) := by
  obtain ⟨hout, herr, htimed, htimer, hresult⟩ := h
  cases e with
  | stdout chunk =>
    refine ⟨?_, ?_, by simpa [Running.step] using htimed, htimer, hresult⟩
    · simpa [stdoutBytes, Event.onStdout, Running.step] using hout.push chunk
    · simpa [stderrBytes, Event.onStderr, Running.step] using herr
  | stderr chunk =>
    refine ⟨?_, ?_, by simpa [Running.step] using htimed, htimer, hresult⟩
    · simpa [stdoutBytes, Event.onStdout, Running.step] using hout
    · simpa [stderrBytes, Event.onStderr, Running.step] using herr.push chunk
  | deadline =>
    have hstep : r.step .deadline = { r with timedOut := true } := by simp [Running.step, htimer]
    rw [hstep]
    refine ⟨?_, ?_, by simp, htimer, hresult⟩
    · simpa [stdoutBytes, Event.onStdout] using hout
    · simpa [stderrBytes, Event.onStderr] using herr
  | failed message => cases he
  | closed exitCode => cases he

theorem Watching.run (h : Watching limit seen r) {events : List Event} (he : Unsettled events) :
    Watching limit (seen ++ events) (r.run events) := by
  induction events generalizing seen r with
  | nil =>
    rw [List.append_nil]
    exact h
  | cons e events ih =>
    obtain ⟨hfirst, hrest⟩ := List.forall_mem_cons.1 he
    have := ih (h.step hfirst) hrest
    rwa [List.append_assoc, List.singleton_append] at this

/-- What the end of the process gives. -/
theorem Watching.outcome (h : Watching limit seen r) (exitCode : Option Int) :
    (r.outcome exitCode).exitCode = exitCode ∧
    (r.outcome exitCode).stdout =
      String.ofList (Text.Utf8.decode ((stdoutBytes seen).take limit)) ∧
    (r.outcome exitCode).stderr =
      String.ofList (Text.Utf8.decode ((stderrBytes seen).take limit)) ∧
    ((r.outcome exitCode).truncated = true ↔
      limit < (stdoutBytes seen).length ∨ limit < (stderrBytes seen).length) ∧
    ((r.outcome exitCode).timedOut = true ↔ .deadline ∈ seen) := by
  refine ⟨rfl, h.stdout.text, h.stderr.text, ?_, h.timedOut_iff⟩
  rw [← h.stdout.truncated_iff, ← h.stderr.truncated_iff, ← Bool.or_eq_true]
  rfl

end

/-! ## Once the run is settled -/

theorem run_append (r : Running) (before after : List Event) :
    r.run (before ++ after) = (r.run before).run after :=
  List.foldl_append

theorem result_step {r : Running} {x : Except String Outcome} (h : r.result = some x) (e : Event) :
    (r.step e).result = some x := by
  cases e with
  | stdout chunk => exact h
  | stderr chunk => exact h
  | deadline =>
    rw [Running.step]
    split
    · exact h
    · exact h
  | failed message => simp [Running.step, Running.settleWith, h]
  | closed exitCode => simp [Running.step, Running.settleWith, h]

/-- A result stays. -/
theorem result_run {r : Running} {x : Except String Outcome} (h : r.result = some x)
    (events : List Event) : (r.run events).result = some x := by
  induction events generalizing r with
  | nil => exact h
  | cons e events ih => exact ih (result_step h e)

/-! ## Results -/

section

variable {limit : Nat} {before after events : List Event}

theorem watching_run (h : Unsettled before) :
    Watching limit before ((Running.start limit).run before) :=
  (watching_start limit).run h

theorem settle_of_unsettled (h : Unsettled events) : settle limit events = none :=
  (watching_run h).result

/-- What a failure or an end does that is the first one. -/
theorem settle_of_step {e : Event} {x : Except String Outcome}
    (h : (((Running.start limit).run before).step e).result = some x) :
    settle limit (before ++ e :: after) = some x := by
  rw [settle, run_append]
  exact result_run h after

theorem settle_of_failed (h : Unsettled before) (message : String) :
    settle limit (before ++ .failed message :: after) = some (.error message) :=
  settle_of_step (by simp [Running.step, Running.settleWith, (watching_run h).result])

theorem settle_of_closed (h : Unsettled before) (exitCode : Option Int) :
    settle limit (before ++ .closed exitCode :: after) =
      some (.ok (((Running.start limit).run before).outcome exitCode)) :=
  settle_of_step (by simp [Running.step, Running.settleWith, (watching_run h).result])

/-- A run that is settled has a first event that settles it. -/
theorem exists_split (h : ¬ Unsettled events) :
    ∃ before e after, events = before ++ e :: after ∧ Unsettled before ∧ e.settles = true := by
  have hsome : (events.find? Event.settles).isSome := by
    rw [List.find?_isSome]
    by_contra hnone
    exact h fun e he => Bool.eq_false_iff.2 fun hsettles => hnone ⟨e, he, hsettles⟩
  obtain ⟨e, he⟩ := Option.isSome_iff_exists.1 hsome
  obtain ⟨hsettles, before, after, hevents, hbefore⟩ := List.find?_eq_some_iff_append.1 he
  exact ⟨before, e, after, hevents, fun d hd => by simpa using hbefore d hd, hsettles⟩

end

/-! ## Events that change places -/

theorem unsettled_controls {events : List Event} :
    Unsettled (controls events) ↔ Unsettled events := by
  constructor
  · intro h e he
    by_contra hne
    have hsettles : e.settles = true := Bool.not_eq_false _ ▸ hne
    exact hne (h e (List.mem_filter.2 ⟨he, Event.isControl_of_settles hsettles⟩))
  · exact fun h e he => h e (List.mem_of_mem_filter he)

theorem controls_split (before after : List Event) {e : Event} (he : e.settles = true) :
    controls (before ++ e :: after) = controls before ++ e :: controls after := by
  rw [controls, List.filter_append, List.filter_cons_of_pos (Event.isControl_of_settles he)]
  rfl

/-- Only one event of a run is the first one that settles it. -/
theorem split_unique {before before' after after' : List Event} {e e' : Event}
    (h : before ++ e :: after = before' ++ e' :: after') (hbefore : Unsettled before)
    (hbefore' : Unsettled before') (he : e.settles = true) (he' : e'.settles = true) :
    before = before' ∧ e = e' := by
  induction before generalizing before' with
  | nil =>
    cases before' with
    | nil => exact ⟨rfl, (List.cons.inj h).1⟩
    | cons d before' =>
      have hd := hbefore' d List.mem_cons_self
      rw [← (List.cons.inj h).1, he] at hd
      cases hd
  | cons c before ih =>
    cases before' with
    | nil =>
      have hc := hbefore c List.mem_cons_self
      rw [(List.cons.inj h).1, he'] at hc
      cases hc
    | cons d before' =>
      obtain ⟨rfl, hrest⟩ := List.cons.inj h
      obtain ⟨rfl, rfl⟩ := ih hrest (List.forall_mem_cons.1 hbefore).2
        (List.forall_mem_cons.1 hbefore').2
      exact ⟨rfl, rfl⟩

/-- No chunk is lost after the end of the process. -/
theorem bytes_of_streamsEnd {events before after : List Event} {exitCode : Option Int}
    (h : StreamsEnd events) (hevents : events = before ++ .closed exitCode :: after) :
    stdoutBytes events = stdoutBytes before ∧ stderrBytes events = stderrBytes before := by
  have hafter : ∀ e ∈ after, e.isControl = true := by
    rw [StreamsEnd, hevents, List.pairwise_append, List.pairwise_cons] at h
    exact fun e he => h.2.1.1 e he rfl
  have hout : after.flatMap Event.onStdout = [] := List.flatMap_eq_nil_iff.2 fun e he => by
    have := hafter e he
    cases e <;> simp_all [Event.onStdout, Event.isControl]
  have herr : after.flatMap Event.onStderr = [] := List.flatMap_eq_nil_iff.2 fun e he => by
    have := hafter e he
    cases e <;> simp_all [Event.onStderr, Event.isControl]
  rw [hevents]
  simp [stdoutBytes, stderrBytes, hout, herr, Event.onStdout, Event.onStderr]

theorem deadline_mem_controls {events : List Event} :
    Event.deadline ∈ controls events ↔ .deadline ∈ events := by
  simp [controls, Event.isControl]

/-- Two runs with the same controls are not settled, or they are settled by the same event, with the
same controls in front of it. -/
theorem split_of_controls {events events' : List Event} (h : controls events = controls events') :
    (Unsettled events ∧ Unsettled events') ∨
    ∃ before before' e after after', events = before ++ e :: after ∧
      events' = before' ++ e :: after' ∧ Unsettled before ∧ Unsettled before' ∧
      e.settles = true ∧ controls before = controls before' := by
  have hiff : Unsettled events ↔ Unsettled events' := by
    rw [← unsettled_controls, h, unsettled_controls]
  by_cases hsettled : Unsettled events
  · exact .inl ⟨hsettled, hiff.1 hsettled⟩
  · obtain ⟨before, e, after, rfl, hbefore, he⟩ := exists_split hsettled
    obtain ⟨before', e', after', rfl, hbefore', he'⟩ := exists_split (mt hiff.2 hsettled)
    rw [controls_split before after he, controls_split before' after' he'] at h
    obtain ⟨hcontrols, rfl⟩ := split_unique h (unsettled_controls.2 hbefore)
      (unsettled_controls.2 hbefore') he he'
    exact .inr ⟨before, before', e, after, after', rfl, rfl, hbefore, hbefore', he, hcontrols⟩

/-- Two states of runs that are not settled give the same outcome if they have seen the same bytes
of each stream, and both or neither the deadline. -/
theorem outcome_congr {limit : Nat} {seen seen' : List Event} {r r' : Running}
    (h : Watching limit seen r) (h' : Watching limit seen' r')
    (hout : stdoutBytes seen = stdoutBytes seen') (herr : stderrBytes seen = stderrBytes seen')
    (htimed : Event.deadline ∈ seen ↔ Event.deadline ∈ seen') (exitCode : Option Int) :
    r.outcome exitCode = r'.outcome exitCode := by
  have hlost : r.stdout.truncated = r'.stdout.truncated := by
    rw [Bool.eq_iff_iff, h.stdout.truncated_iff, h'.stdout.truncated_iff, hout]
  have hlost' : r.stderr.truncated = r'.stderr.truncated := by
    rw [Bool.eq_iff_iff, h.stderr.truncated_iff, h'.stderr.truncated_iff, herr]
  have htimer : r.timedOut = r'.timedOut := by
    rw [Bool.eq_iff_iff, h.timedOut_iff, h'.timedOut_iff, htimed]
  rw [Running.outcome, Running.outcome, h.stdout.text, h.stderr.text, h'.stdout.text,
    h'.stderr.text, hout, herr, hlost, hlost', htimer]

/-- The order in which the streams are seen does not matter. -/
theorem settle_of_interleaving {limit : Nat} {events events' : List Event}
    (hend : StreamsEnd events) (hend' : StreamsEnd events')
    (hout : stdoutBytes events = stdoutBytes events')
    (herr : stderrBytes events = stderrBytes events')
    (hcontrols : controls events = controls events') :
    settle limit events = settle limit events' := by
  rcases split_of_controls hcontrols with ⟨h, h'⟩ |
    ⟨before, before', e, after, after', hevents, hevents', hbefore, hbefore', he, hsame⟩
  · rw [settle_of_unsettled h, settle_of_unsettled h']
  · cases e with
    | stdout chunk => cases he
    | stderr chunk => cases he
    | deadline => cases he
    | failed message =>
      rw [hevents, hevents', settle_of_failed hbefore, settle_of_failed hbefore']
    | closed exitCode =>
      obtain ⟨hbytes, hbytes'⟩ := bytes_of_streamsEnd hend hevents
      obtain ⟨hbytesₑ, hbytesₑ'⟩ := bytes_of_streamsEnd hend' hevents'
      have htimed : Event.deadline ∈ before ↔ Event.deadline ∈ before' := by
        rw [← deadline_mem_controls, hsame, deadline_mem_controls]
      have houtcome : ((Running.start limit).run before).outcome exitCode =
          ((Running.start limit).run before').outcome exitCode :=
        outcome_congr (watching_run hbefore) (watching_run hbefore')
          (by rw [← hbytes, hout, hbytesₑ]) (by rw [← hbytes', herr, hbytesₑ']) htimed exitCode
      rw [hevents, hevents', settle_of_closed hbefore, settle_of_closed hbefore', houtcome]

/-- A run is settled by its first failure or end, and stays settled as it is. A failure gives its
message. An end gives the first bytes of each stream, as many as the limit allows, in the order of
the chunks; whether a stream had more; whether the deadline came before the end; and the exit code.
Runs with the same bytes on each stream and the same controls have the same result. -/
theorem settle_of_first (limit : Nat) :
    (∀ events, settle limit events = none ↔ Unsettled events) ∧
    (∀ events later x, settle limit events = some x → settle limit (events ++ later) = some x) ∧
    (∀ before message after, Unsettled before →
      settle limit (before ++ .failed message :: after) = some (.error message)) ∧
    (∀ before exitCode after, Unsettled before →
      ∃ o, settle limit (before ++ .closed exitCode :: after) = some (.ok o) ∧
        o.exitCode = exitCode ∧
        o.stdout = String.ofList (Text.Utf8.decode ((stdoutBytes before).take limit)) ∧
        o.stderr = String.ofList (Text.Utf8.decode ((stderrBytes before).take limit)) ∧
        (o.truncated = true ↔
          limit < (stdoutBytes before).length ∨ limit < (stderrBytes before).length) ∧
        (o.timedOut = true ↔ .deadline ∈ before)) ∧
    (∀ events events', StreamsEnd events → StreamsEnd events' →
      stdoutBytes events = stdoutBytes events' → stderrBytes events = stderrBytes events' →
      controls events = controls events' → settle limit events = settle limit events') := by
  refine ⟨fun events => ⟨fun hnone => ?_, settle_of_unsettled⟩, fun events later x hx => ?_,
    fun before message after hbefore => settle_of_failed hbefore message,
    fun before exitCode after hbefore => ⟨_, settle_of_closed hbefore exitCode,
      (watching_run hbefore).outcome exitCode⟩,
    fun events events' hend hend' hout herr => settle_of_interleaving hend hend' hout herr⟩
  · by_contra hsettled
    obtain ⟨before, e, after, rfl, hbefore, he⟩ := exists_split hsettled
    cases e with
    | stdout chunk => cases he
    | stderr chunk => cases he
    | deadline => cases he
    | failed message =>
      rw [settle_of_failed hbefore] at hnone
      cases hnone
    | closed exitCode =>
      rw [settle_of_closed hbefore] at hnone
      cases hnone
  · rw [settle, run_append]
    exact result_run hx later

/-- The streams change places and are cut elsewhere, and a late failure changes nothing. -/
theorem settle_abc :
    let events := [.stdout [97, 98], .deadline, .stderr [120], .stdout [99, 100], .closed none]
    let events' := [.stderr [120], .stdout [97], .stdout [98, 99, 100], .deadline, .closed none]
    Unsettled events.dropLast ∧ StreamsEnd events ∧ StreamsEnd events' ∧
    settle (3 : Nat) events = settle (3 : Nat) events' ∧
    ∃ o, settle (3 : Nat) (events ++ [.failed "kill EPERM"]) = some (.ok o) ∧
      o.exitCode = none ∧ o.stdout = "abc" ∧ o.stderr = "x" ∧ o.truncated = true ∧
      o.timedOut = true := by
  intro events events'
  obtain ⟨-, hstays, -, hend, hinterleaving⟩ := settle_of_first 3
  have hbefore : Unsettled events.dropLast := by
    rw [Unsettled]
    decide
  have hstreams : StreamsEnd events := by
    rw [StreamsEnd]
    decide
  have hstreams' : StreamsEnd events' := by
    rw [StreamsEnd]
    decide
  obtain ⟨o, hsettle, hcode, hout, herr, htruncated, htimed⟩ := hend events.dropLast none [] hbefore
  refine ⟨hbefore, hstreams, hstreams',
    hinterleaving events events' hstreams hstreams' (by decide) (by decide) (by decide), o,
    hstays events [.failed "kill EPERM"] _ hsettle, hcode, ?_, ?_, htruncated.2 (by decide),
    htimed.2 (by decide)⟩
  · rw [hout]
    decide +kernel
  · rw [herr]
    decide +kernel

end Phrasebook.Subprocess
