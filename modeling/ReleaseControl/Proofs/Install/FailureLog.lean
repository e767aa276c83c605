import ReleaseControl.Proofs.Engine.Log
import ReleaseControl.Proofs.Install.Interruption

/-!
# The log in the notice of a failure

Each call has a log buffer of its own, and what is in it reaches nothing but the messages of notices.

* `Call.blank`: a call without the messages of its notices; `Attempt.muted`: a call whose engine logs
  nothing; **`blank_calls_muted`**.
* **`failure_log`**: the message of the notice of a failure.
-/

namespace ReleaseControl

variable {σ : Type}

def Emission.blank (e : Emission) : Emission := { e with notice := { e.notice with message := "" } }

def Call.blank (call : Call σ) : Call σ := { call with emissions := call.emissions.map Emission.blank }

theorem Call.blank_dropAtNotice (now : Instant) (counters : Counters) (call : Call σ) :
    (call.dropAtNotice now counters).blank = call.blank.dropAtNotice now counters := by
  obtain ⟨outcome, object, emissions, after, state⟩ := call
  cases emissions <;> rfl

namespace Install

/-- **What a log reaches**: the messages of notices. -/
theorem blank_settle_log (t : Readings) (r : Request) (counters : Counters) (trace : Trace σ)
    (b : LogBuffer) : (settle t r counters (trace.withLog b)).blank =
      (settle t r counters trace).blank := by
  -- the log decides no exit
  have result : (trace.withLog b).result? = trace.result? := rfl
  refine settle_cases t r counters
    (P := fun call => (settle t r counters (trace.withLog b)).blank = call.blank) trace (fun h => ?_)
    (fun e h hw => ?_) (fun e h hw full => ?_) (fun e h hw room full => ?_)
    (fun e h hw room roomInstall => ?_) fun release h => ?_
  · rw [settle_of_none t r counters (result.trans h)]
    rfl
  · rw [settle_of_error_nil t r counters (result.trans h) hw]
    rfl
  · rw [settle_uncounted t r counters (result.trans h) hw full]
    rfl
  · rw [settle_unremedied t r counters (result.trans h) hw room full]
    rfl
  · rw [settle_failed t r counters (result.trans h) hw room roomInstall]
    rfl
  · rw [settle_of_ok t r counters (result.trans h)]
    rfl

namespace Attempt

def muted (a : Attempt) : Attempt := { a with engine := fun input => (a.engine input).muted }

section Log

variable {s : Settings} (d : Driver σ) (a : Attempt) (w : Standing σ) (room : hasRoom s = true)

include room

/-- **The buffer of a call holds the last lines of that call**: it is made for the call, and only its
engine logs to it. -/
theorem log_trace : (a.trace s d w).log.Holds (logged (a.journal s d w)) := by
  have blank : ({ capacity := s.logCapacity } : LogBuffer).lines = [] := rfl
  rw [trace, trace_of_room _ _ _ _ _ _ room, journal, Install.journal, if_pos room]
  exact run_log d a.readings.storage (program a.engine a.token (a.request w.object.status)) blank

theorem capacity_trace : (a.trace s d w).log.capacity = s.logCapacity := by
  rw [trace, trace_of_room _ _ _ _ _ _ room, run_log_eq_foldl, LogBuffer.capacity_foldl_log]

theorem trace_muted {other : Settings} (otherRoom : hasRoom other = true) :
    a.muted.trace other d w = (a.trace s d w).withLog { capacity := other.logCapacity } := by
  rw [trace, trace_of_room _ _ _ _ _ _ otherRoom, trace, trace_of_room _ _ _ _ _ _ room]
  unfold muted program
  by_cases early : (a.token.cancelled && a.token.noticedFirst) = true
  · simp only [early, if_true, Program.run, Trace.withLog]
  · let blank : Progress σ :=
      { state := w.state, log := { capacity := s.logCapacity }, cancelled := a.token.cancelled }
    simp only [early, Bool.false_eq_true, if_false]
    exact run_muted d a.readings.storage (a.engine (engineInput (a.request w.object.status))) blank _

/-- **A call whose engine logs nothing** is the same but for the messages of its notices, whatever the
settings. -/
theorem blank_call_muted {other : Settings} (otherRoom : hasRoom other = true) :
    (a.muted.call other d w).blank = (a.call s d w).blank := by
  have settled : (a.muted.settled other d w).blank = (a.settled s d w).blank := by
    have trace : a.muted.trace other d w = _ := trace_muted d a w room otherRoom
    exact (congrArg (fun t => (settle a.readings (a.request w.object.status) w.counters t).blank)
      trace).trans (blank_settle_log _ _ _ _ _)
  have reconciled : (a.muted.reconciled other d w).blank = (a.reconciled s d w).blank :=
    congrArg (fun call : Call σ =>
      { call with object := call.object.summarize a.readings.summarized }) settled
  unfold call
  have dropped : a.muted.dropped = a.dropped := rfl
  rw [dropped]
  cases a.dropped with
  | false => exact reconciled
  | true =>
    rw [if_pos rfl, if_pos rfl, Call.blank_dropAtNotice, Call.blank_dropAtNotice, reconciled]
    rfl

end Log

end Attempt

/-- **Nothing but the messages of notices depends on what is logged**, through any sequence of calls. -/
theorem blank_calls_muted {s other : Settings} (room : hasRoom s = true)
    (otherRoom : hasRoom other = true) (d : Driver σ) (attempts : List Attempt) (w : Standing σ) :
    (calls other d (attempts.map Attempt.muted) w).map Call.blank =
      (calls s d attempts w).map Call.blank := by
  induction attempts generalizing w with
  | nil => rfl
  | cons a rest ih =>
    have first := a.blank_call_muted d w room otherRoom
    have handed : (a.muted.call other d w).standing = (a.call s d w).standing :=
      (congrArg Call.standing first :)
    have later := ih (a.call s d w).standing
    rw [calls, calls] at later
    rw [List.map_cons, calls, calls, trail, trail, List.map_cons, List.map_cons, first, handed, later]

namespace Attempt

variable {s : Settings} {d : Driver σ} {a : Attempt} {w : Standing σ}

/-- A failure that can be counted is told of in one notice, with what is held of the log below the
message that the object is marked with. -/
theorem told_of_failed (failed : a.verdict s d w = .failed)
    (room : w.object.statusOrNew.failures ≠ Int64.maxValue) :
    ∃ e released, (a.call s d w).emissions = [e] ∧
      (a.call s d w).object.conditions.get? .released = some released ∧
      e.notice.message = (a.trace s d w).log.extend released.message := by
  obtain ⟨err, emissions, objects⟩ := settled_of_counted failed room
  obtain ⟨released, marked, -, -, message, -⟩ := (counted (a.merged s d w)).get?_conditions_mark
    a.readings.released .released .false failedReason (failureMessage (counted (a.merged s d w)) a.chart err)
  have summarized : ∀ o : HelmRelease, o.conditions.get? .released = some released →
      (o.summarize a.readings.summarized).conditions.get? .released = some released := fun o found =>
    (Conditions.get?_congr (o.keeps_summarize _ (by decide))).trans found
  refine ⟨a.told s d w err, released, ?_, ?_, ?_⟩
  · rcases call_cases s d a w with through | ⟨e, -, dropped⟩
    · rw [through]
      exact emissions
    · rw [dropped]
      exact emissions
  · rcases object_call s d a w with through | ⟨e, he, dropped⟩
    · rw [through]
      rcases objects with same | more
      · rw [same]
        exact summarized _ marked
      · -- the count towards remediation changes no condition
        rw [more]
        refine summarized (a.failed s d w err) ?_
        rw [Attempt.failed, conditions_failed]
        exact marked
    · rw [emissions] at he
      rw [dropped, List.mem_singleton.1 he]
      exact summarized _ marked
  · rw [message]
    rfl

theorem silent_of_failed (failed : a.verdict s d w = .failed)
    (full : w.object.statusOrNew.failures = Int64.maxValue) :
    (a.call s d w).outcome = .panicked overflowMessage ∧ (a.call s d w).emissions = [] := by
  have settled := settled_of_uncounted failed full
  have silent : (a.settled s d w).emissions = [] := congrArg Call.emissions settled
  rw [call_eq_of_silent silent]
  exact ⟨congrArg Call.outcome settled, silent⟩

end Attempt

/-- **A failure is told with the end of its own log.** Wherever in a sequence of calls an install fails
or is cancelled after a write, the message of its notice is the one of the `Released` condition, and
below it, if there is room for lines and the engine logged any in this call, as many of the last of
them as there is room for, oldest first. There is one notice, or none just if the failure could not be
counted and the call panicked. But for the messages of notices, no call of the sequence depends on what
any engine logs, or on how many lines are kept. -/
theorem failure_log (s : Settings) (d : Driver σ) (earlier : List Attempt) (a : Attempt)
    (later : List Attempt) (w : Standing σ) (failed : a.verdict s d (after s d earlier w) = .failed) :
    let attempts := earlier ++ a :: later
    let before := after s d earlier w
    let lines := logged (a.journal s d before)
    (∃ call, (calls s d attempts w)[earlier.length]? = some call ∧
      (∀ e ∈ call.emissions, call.emissions = [e] ∧
        ∃ released, call.object.conditions.get? .released = some released ∧
          (s.logCapacity = 0 ∨ lines = [] → e.notice.message = released.message) ∧
          (s.logCapacity ≠ 0 → lines ≠ [] → ∃ older last, lines = older ++ last ∧
            last.length = min s.logCapacity.toNat lines.length ∧
            e.notice.message =
              released.message ++ "\n\nLast Helm logs:\n\n" ++ String.intercalate "\n" last)) ∧
      (call.emissions = [] ↔ before.object.statusOrNew.failures = Int64.maxValue) ∧
      (call.emissions = [] → call.outcome = .panicked overflowMessage)) ∧
    ∀ other : Settings, hasRoom other = true →
      (calls other d (attempts.map Attempt.muted) w).map Call.blank =
        (calls s d attempts w).map Call.blank := by
  intro attempts before lines
  have room : hasRoom s = true := Attempt.room_of_ne fun unstarted => by cases unstarted.symm.trans failed
  refine ⟨⟨_, getElem?_calls earlier a later w, ?_⟩,
    fun other otherRoom => blank_calls_muted room otherRoom d attempts w⟩
  by_cases full : before.object.statusOrNew.failures = Int64.maxValue
  · obtain ⟨panicked, silent⟩ := Attempt.silent_of_failed failed full
    refine ⟨fun e he => ?_, iff_of_true silent full, fun _ => panicked⟩
    rw [silent] at he
    exact absurd he List.not_mem_nil
  obtain ⟨e, released, told, marked, message⟩ := Attempt.told_of_failed failed full
  have spoken : (a.call s d before).emissions ≠ [] := told ▸ List.cons_ne_nil e []
  refine ⟨fun e' he => ?_, iff_of_false spoken full, fun silent => absurd silent spoken⟩
  obtain rfl : e' = e := List.mem_singleton.1 (told ▸ he)
  have holds := a.log_trace d before room
  have capacity := a.capacity_trace d before room
  refine ⟨told, released, marked, fun nothing => ?_, fun some any => ?_⟩
  · rw [← capacity] at nothing
    rw [message, LogBuffer.extend_of_nothing holds nothing]
  · rw [← capacity] at some
    obtain ⟨older, last, split, length, extended⟩ :=
      LogBuffer.extend_of_lines holds some any released.message
    rw [capacity] at length
    exact ⟨older, last, split, length, message.trans extended⟩

/-! ### A call that is cancelled while it waits

A first call has stored a record and failed. The second one writes it again and is cancelled while it
waits, having logged three lines, one of them empty, where two are kept. -/

namespace Sample

def waiting : Attempt := attempt fun _ =>
  .log "updating 1 resource(s)" (.storage (.update pending.key pending) fun _ =>
    .log "" (.log "waiting for 1 pod(s)" (.cancel .hang)))

end Sample

theorem failure_log_cancelled :
    let s : Settings := { logCapacity := 2 }
    let earlier := [Sample.attempt Sample.engine]
    Sample.waiting.verdict s Records.driver (after s Records.driver earlier Sample.tested) = .failed ∧
      ∃ call e released,
        (calls s Records.driver (earlier ++ [Sample.waiting]) Sample.tested)[1]? = some call ∧
        call.emissions = [e] ∧ call.object.conditions.get? .released = some released ∧
        e.notice.message = released.message ++ "\n\nLast Helm logs:\n\n" ++ "\nwaiting for 1 pod(s)" := by
  intro s earlier
  have failed : Sample.waiting.verdict s Records.driver
      (after s Records.driver earlier Sample.tested) = .failed := rfl
  obtain ⟨⟨call, found, notices, silent, -⟩, -⟩ :=
    failure_log s Records.driver earlier Sample.waiting [] Sample.tested failed
  have spoken : call.emissions ≠ [] := fun none => absurd (silent.1 none) (by decide)
  obtain ⟨e, he⟩ := List.exists_mem_of_ne_nil _ spoken
  obtain ⟨told, released, marked, -, long⟩ := notices e he
  have lines : logged (Sample.waiting.journal s Records.driver
      (after s Records.driver earlier Sample.tested)) =
        ["updating 1 resource(s)"] ++ ["", "waiting for 1 pod(s)"] := rfl
  rw [lines] at long
  obtain ⟨older, last, split, length, message⟩ := long (by decide) (by decide)
  have kept : ["", "waiting for 1 pod(s)"] = last := (List.append_inj' split length.symm).2
  refine ⟨failed, call, e, released, found, told, marked, ?_⟩
  rw [message, ← kept]
  rfl

end Install

end ReleaseControl
