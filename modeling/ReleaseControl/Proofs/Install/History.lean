import ReleaseControl.Proofs.Install.Outcome

/-!
# The history after an install

A call that returns leaves exactly what its engine wrote in the history.
-/

namespace ReleaseControl

namespace Install

variable {σ : Type}

theorem history_settle (t : Readings) (r : Request) (counters : Counters) {trace : Trace σ}
    {result : Except ActionError Release} (h : trace.result? = some result) :
    (settle t r counters trace).object.statusOrNew.history = lastWritten trace.reports := by
  have hm : (merged r trace.reports).statusOrNew.history = lastWritten trace.reports := by
    rw [statusOrNew_merged]
  -- an interrupted call is excluded by the result
  refine settle_cases t r counters
    (P := fun call => call.object.statusOrNew.history = lastWritten trace.reports) trace
    (fun hn => ?_) (fun _ _ _ => hm) (fun _ _ _ _ => hm) (fun _ _ _ _ _ => hm) (fun _ _ _ _ _ => hm)
    fun release _ => ?_
  · cases hn.symm.trans h
  · rw [statusOrNew_succeed]
    exact hm

variable (s : Settings) (engine : Engine) (d : Driver σ) (t : Readings) (token : CancelToken)
  (r : Request) (counters : Counters) (state : σ)

theorem history_reconcile {result : Except ActionError Release}
    (h : (trace s engine d t token r state).result? = some result) :
    (reconcile s engine d t token r counters state).object.statusOrNew.history =
      lastWritten (written (journal s engine d t token r state)) := by
  rw [reconcile_eq, HelmRelease.statusOrNew_summarize, ← trace_reports s]
  exact history_settle t r counters h

/-- **The history of a call that returned**: of each revision that the call wrote the last record,
the revisions in the order of their first writes, none of them twice. -/
theorem history_after_return
    (returned : (reconcile s engine d t token r counters state).outcome.Returned) :
    let history := (reconcile s engine d t token r counters state).object.statusOrNew.history
    let records := written (journal s engine d t token r state)
    history = lastWritten records ∧
      history.map Snapshot.revision = (records.map Release.revision).eraseDups ∧
      (history.map Snapshot.revision).Nodup ∧
      ∀ snapshot ∈ history, ∃ record ∈ records, snapshot = record.toSnapshot ∧
        records.reverse.find? (·.revision = record.revision) = some record := by
  intro history records
  obtain ⟨result, hr⟩ := exists_result_of_returned t r counters returned
  have h : history = lastWritten records := history_reconcile s engine d t token r counters state hr
  refine ⟨h, ?_, ?_, ?_⟩
  · rw [h, map_revision_lastWritten]
  · rw [h]
    exact nodup_revision_lastWritten records
  · rw [h]
    exact fun snapshot hs => mem_lastWritten hs

/-! ### A call that is cancelled -/

namespace Sample

def deployed : Release := { pending with status := .deployed }

def second : Release := { pending with version := 2 }

/-- Stores two revisions, replaces the first, fails to store it again, removes the second and waits
until it is cancelled. -/
def cancelledEngine : Engine := fun _ =>
  .storage (.create "one" pending) fun _ => .storage (.create "two" second) fun _ =>
    .storage (.update "one" deployed) fun _ => .storage (.create "one" second) fun _ =>
      .storage (.delete "two") fun _ => .cancel .hang

end Sample

theorem history_after_return_cancelled :
    let call := reconcile {} Sample.cancelledEngine Records.driver Sample.readings {} Sample.request {}
      Table.empty
    call.outcome.Returned ∧ call.object.statusOrNew.history =
      [Sample.deployed.toSnapshot, (Sample.second.deletedAt default).toSnapshot] :=
  have result : (trace {} Sample.cancelledEngine Records.driver Sample.readings {} Sample.request
    Table.empty).result? = some (.error .cancelled) := rfl
  have returned := returned_of_result Sample.readings Sample.request {} result (by decide) (by decide)
  ⟨returned, (history_after_return {} Sample.cancelledEngine Records.driver Sample.readings {}
    Sample.request {} Table.empty returned).1.trans rfl⟩

end Install

end ReleaseControl
