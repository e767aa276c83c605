import ReleaseControl.Proofs.Install.Status

/-!
# What an interruption loses

The history is cleared before the engine starts, and what was written is merged into it once the
engine has come to a result. An engine whose call is dropped while it waits, or which panics, has not.

* `Program.cancelling`, `Attempt.cancelling`: cancelled where another one waits for ever or panics.
* **`history_interrupted`**: the history of a call, against that of the cancelled call.
* `interruption_forgets`: calls that lose what they wrote.
-/

namespace ReleaseControl

variable {σ : Type}

/-- The program that asks to be cancelled where another one waits for ever or panics. -/
def Program.cancelling : Program → Program
  | .finish result => .finish result
  | .hang | .panic _ => .cancel .hang
  | .log line next => .log line next.cancelling
  | .storage op next => .storage op fun result => (next result).cancelling
  | .report r next => .report r next.cancelling
  | .cancel next => .cancel next.cancelling

namespace Trace

/-- The run that is cancelled where another one waits for ever or panics. -/
def cancelling (t : Trace σ) : Trace σ :=
  match t.ending with
  | .finished _ | .unstarted => t
  | .hung | .panicked _ => { t with cancelled := true, ending := .hung }

theorem state_cancelling (t : Trace σ) : t.cancelling.state = t.state := by
  unfold cancelling
  split <;> rfl

theorem reports_cancelling (t : Trace σ) : t.cancelling.reports = t.reports := by
  unfold cancelling
  split <;> rfl

/-- **A run that is cancelled has a result** once it has started: its own if it comes to one, or the
cancellation. -/
theorem result?_cancelling {t : Trace σ} (started : t.started = true) :
    t.cancelling.result? = some (t.result?.getD (.error .cancelled)) := by
  unfold cancelling result?
  cases h : t.ending with
  | unstarted =>
    rw [Trace.started, h] at started
    cases started
  | finished result => simp only [h, Option.getD_some]
  | hung => cases t.cancelled <;> rfl
  | panicked message => rfl

end Trace

theorem run_cancelling (d : Driver σ) (clock : Nat → Instant) (p : Program) (progress : Progress σ) :
    p.cancelling.run d clock progress = (p.run d clock progress).cancelling := by
  induction p generalizing progress with
  | finish result => rfl
  | hang => rfl
  | panic message => rfl
  | log line next ih => exact ih _
  | storage op next ih => exact ih _ _
  | report r next ih => exact ih _
  | cancel next ih => exact ih _

namespace Install

namespace Attempt

/-- The call that is cancelled where another one is interrupted. -/
def cancelling (a : Attempt) : Attempt :=
  { a with engine := fun input => (a.engine input).cancelling, dropped := false }

variable (s : Settings) (d : Driver σ) (a : Attempt) (w : Standing σ)

theorem trace_cancelling : a.cancelling.trace s d w = (a.trace s d w).cancelling := by
  unfold trace
  by_cases room : hasRoom s = true
  · rw [trace_of_room _ _ _ _ _ _ room, trace_of_room _ _ _ _ _ _ room]
    unfold cancelling program
    by_cases early : (a.token.cancelled && a.token.noticedFirst) = true
    · -- the engine does not start, and the run has been cancelled before
      obtain ⟨cancelled, noticed⟩ := Bool.and_eq_true_iff.1 early
      simp only [cancelled, noticed, Bool.and_self, if_true, Program.run, Trace.cancelling]
    · simp only [early, Bool.false_eq_true, if_false]
      exact run_cancelling d a.readings.storage (a.engine (engineInput (a.request w.object.status))) _
  · rw [trace_of_no_room _ _ _ _ _ _ room, trace_of_no_room _ _ _ _ _ _ room]
    rfl

theorem written_journal_cancelling :
    written (a.cancelling.journal s d w) = written (a.journal s d w) := by
  rw [← reports_trace, ← reports_trace, trace_cancelling, Trace.reports_cancelling]

theorem state_call : (a.call s d w).state = (a.trace s d w).state := by
  have settled : (a.settled s d w).state = (a.trace s d w).state := state_settle _ _ _ _
  rcases call_cases s d a w with through | ⟨e, -, dropped⟩
  · rw [through]
    exact settled
  · rw [dropped]
    exact settled

variable {s d a w}

theorem of_unstarted (h : a.verdict s d w = .unstarted) : hasRoom s = false ∧
    a.journal s d w = [] ∧ (a.call s d w).state = w.state := by
  have full : hasRoom s = false := by
    have exit := a.exits s d w
    rw [h] at exit
    generalize a.settled s d w = call at exit
    cases exit with
    | unstarted unstarted _ => exact a.started_eq s d w ▸ unstarted
  have no_room : ¬ hasRoom s = true := Bool.not_eq_true _ ▸ full
  refine ⟨full, if_neg no_room, ?_⟩
  rw [state_call, trace, trace_of_no_room _ _ _ _ _ _ no_room]

theorem result?_of_interrupted (h : a.verdict s d w = .interrupted) :
    (a.trace s d w).result? = none := by
  unfold verdict at h
  split at h
  · assumption
  · cases h
  · split at h <;> cases h

theorem not_returned_of_interrupted (h : a.verdict s d w = .interrupted) :
    ¬ (a.call s d w).outcome.Returned := by
  intro returned
  rw [call_eq_of_returned returned] at returned
  obtain ⟨result, found⟩ := exists_result_of_returned _ _ _ returned
  cases (result?_of_interrupted h).symm.trans found

theorem exists_result (h : a.verdict s d w ≠ .interrupted) (h' : a.verdict s d w ≠ .unstarted) :
    ∃ result, (a.trace s d w).result? = some result := by
  refine Option.ne_none_iff_exists'.1 fun none => ?_
  have verdict := verdict_of_none none
  split at verdict
  · exact h verdict
  · exact h' verdict

theorem history_of_result {result : Except ActionError Release}
    (h : (a.trace s d w).result? = some result) :
    (a.call s d w).object.statusOrNew.history = lastWritten (written (a.journal s d w)) := by
  rw [history_call]
  cases result with
  | ok release => rw [verdict_of_ok h, Verdict.history]
  | error e =>
    by_cases hw : written (a.journal s d w) = []
    · rw [verdict_of_error_nil h hw, Verdict.history]
    · rw [verdict_of_error h hw, Verdict.history]

variable (room : hasRoom s = true)

include room

theorem result?_trace_cancelling : (a.cancelling.trace s d w).result? =
    some ((a.trace s d w).result?.getD (.error .cancelled)) := by
  rw [trace_cancelling]
  exact Trace.result?_cancelling ((a.started_eq s d w).trans room)

theorem returned_cancelling (below : w.object.statusOrNew.failures ≠ Int64.maxValue)
    (belowInstall : w.object.statusOrNew.installFailures ≠ Int64.maxValue) :
    (a.cancelling.call s d w).outcome.Returned :=
  returned_of_result _ _ _ (result?_trace_cancelling room) below belowInstall

end Attempt

/-- **What an interruption loses.** Cancelled in its place, a call has the merge of all that it wrote in
the history, and it returns if both counters have room for a failure. So does a call that comes to a
result, and one that is dropped at its notice has that merge as well. A call that is interrupted before
has an empty history, which is that merge only if it wrote nothing. Without room for its log, a call has
no engine to interrupt, and leaves the history as it was. -/
theorem history_interrupted (s : Settings) (d : Driver σ) (a : Attempt) (w : Standing σ) :
    let call := a.call s d w
    let cancelled := a.cancelling.call s d w
    let merge := (ObservedSet.ofReleases (written (a.journal s d w))).mergeInto []
    (a.verdict s d w ≠ .unstarted → cancelled.state = call.state ∧
      cancelled.object.statusOrNew.history = merge ∧
      (w.object.statusOrNew.failures ≠ Int64.maxValue →
        w.object.statusOrNew.installFailures ≠ Int64.maxValue → cancelled.outcome.Returned)) ∧
    (a.verdict s d w ≠ .interrupted → a.verdict s d w ≠ .unstarted →
      call.object.statusOrNew.history = merge) ∧
    (a.verdict s d w = .interrupted → ¬ call.outcome.Returned ∧
      call.object.statusOrNew.history = [] ∧
      (call.object.statusOrNew.history = merge ↔ ∀ e ∈ a.journal s d w, ¬ e.Wrote)) ∧
    (a.verdict s d w = .unstarted → hasRoom s = false ∧ a.journal s d w = [] ∧
      call.state = w.state ∧ call.object.statusOrNew.history = w.object.statusOrNew.history) := by
  intro call cancelled merge
  have merge_eq : merge = lastWritten (written (a.journal s d w)) := mergeInto_nil _
  have history := a.history_call s d w
  refine ⟨fun started => ?_, fun completed started => ?_, fun interrupted => ?_, fun unstarted => ?_⟩
  · have room := Attempt.room_of_ne started
    have result := Attempt.result?_trace_cancelling (a := a) (d := d) (w := w) room
    refine ⟨?_, ?_, Attempt.returned_cancelling room⟩
    · rw [Attempt.state_call, Attempt.trace_cancelling, Trace.state_cancelling, ← Attempt.state_call]
    · rw [merge_eq, Attempt.history_of_result result, Attempt.written_journal_cancelling]
  · obtain ⟨result, found⟩ := Attempt.exists_result completed started
    rw [merge_eq, Attempt.history_of_result found]
  · rw [interrupted] at history
    refine ⟨Attempt.not_returned_of_interrupted interrupted, history, ?_⟩
    rw [history, merge_eq, ← written_eq_nil]
    constructor
    · intro empty
      exact lastWritten_eq_nil.1 empty.symm
    · intro quiet
      exact (lastWritten_eq_nil.2 quiet).symm
  · obtain ⟨full, quiet, untouched⟩ := Attempt.of_unstarted unstarted
    rw [unstarted] at history
    exact ⟨full, quiet, untouched, history⟩

/-! ### Calls that lose what they wrote -/

namespace Sample

/-- A call whose engine stores a record and goes on with a program. -/
def storing (rest : Program) : Attempt :=
  attempt fun _ => .storage (.create pending.key pending) fun _ => rest

end Sample

/-- Dropped where it waits, the call has forgotten the record that the cancelled call remembers. -/
theorem history_interrupted_dropped :
    let a := Sample.storing .hang
    a.verdict {} Records.driver Sample.tested = .interrupted ∧
    (a.call {} Records.driver Sample.tested).object.statusOrNew.history = [] ∧
    (a.cancelling.call {} Records.driver Sample.tested).object.statusOrNew.history =
      [Sample.pending.toSnapshot] := by
  intro a
  have interrupted : a.verdict {} Records.driver Sample.tested = .interrupted := rfl
  obtain ⟨kept, -, lost, -⟩ := history_interrupted {} Records.driver a Sample.tested
  have started : a.verdict {} Records.driver Sample.tested ≠ .unstarted :=
    fun unstarted => by cases interrupted.symm.trans unstarted
  exact ⟨interrupted, (lost interrupted).2.1, (kept started).2.1.trans rfl⟩

/-- A call that is dropped, and one whose engine panics, each after it stored a record: its history is
not the merge of what it wrote. -/
theorem interruption_forgets :
    let merge := (ObservedSet.ofReleases [Sample.pending]).mergeInto []
    let dropped := Sample.storing .hang
    let panicked := Sample.storing (.panic "out of range")
    ((dropped.call {} Records.driver Sample.tested).outcome = .dropped ∧
      written (dropped.journal {} Records.driver Sample.tested) = [Sample.pending] ∧
      (dropped.call {} Records.driver Sample.tested).object.statusOrNew.history ≠ merge) ∧
    ((panicked.call {} Records.driver Sample.tested).outcome = .panicked "out of range" ∧
      written (panicked.journal {} Records.driver Sample.tested) = [Sample.pending] ∧
      (panicked.call {} Records.driver Sample.tested).object.statusOrNew.history ≠ merge) := by
  intro merge dropped panicked
  have kept : merge = [Sample.pending.toSnapshot] := rfl
  have forgotten : (dropped.call {} Records.driver Sample.tested).object.statusOrNew.history = [] := rfl
  have lost : (panicked.call {} Records.driver Sample.tested).object.statusOrNew.history = [] := rfl
  rw [kept, forgotten, lost]
  exact ⟨⟨rfl, rfl, (List.cons_ne_nil _ _).symm⟩, rfl, rfl, (List.cons_ne_nil _ _).symm⟩

end Install

end ReleaseControl
