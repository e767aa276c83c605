import ReleaseControl.Proofs.Install.History
import ReleaseControl.Proofs.Storage.Tracking

/-!
# The history and storage

After a call that returns, the history tells of every key that the call wrote to what storage holds
there, or what was last removed from there, and of no other key.
-/

namespace ReleaseControl

namespace Install

variable {σ : Type} {engine : Engine} {d : Driver σ} {t : Readings} {token : CancelToken} {r : Request}
  {state : σ} {table : σ → Records}

theorem tracks_reconcile (s : Settings) (counters : Counters) (serves : d.Serves table)
    (keyed : (table state).Keyed) (own : ∀ e ∈ journal s engine d t token r state, e.KeepsKeys) :
    Tracks (table state) (table (reconcile s engine d t token r counters state).state)
      (journal s engine d t token r state) := by
  rw [reconcile_eq, state_settle]
  unfold journal at own ⊢
  split at own
  · next room =>
    rw [if_pos room, trace_of_room engine d t token r state room]
    exact Tracks.run serves t.storage (program engine token r)
      { state := state, log := { capacity := s.logCapacity }, cancelled := token.cancelled } (.nil keyed)
      own
  · next full =>
    rw [if_neg full, trace_of_no_room engine d t token r state full]
    exact .nil keyed

/-- **The history agrees with storage**, key by key, after a call that returned and whose engine kept
records under their own keys. If the call wrote to a key, the history has one snapshot of that key:
of the record that storage holds there, or of the one last removed from there. If it did not, storage
is as before there, and the history has no snapshot of that key. -/
theorem history_agrees_with_storage (s : Settings) (counters : Counters) (serves : d.Serves table)
    (keyed : (table state).Keyed) (own : ∀ e ∈ journal s engine d t token r state, e.KeepsKeys)
    (returned : (reconcile s engine d t token r counters state).outcome.Returned) (key : String) :
    let steps := journal s engine d t token r state
    let history := (reconcile s engine d t token r counters state).object.statusOrNew.history
    let before := table state
    let after := table (reconcile s engine d t token r counters state).state
    ((∃ e ∈ steps, e.writtenKey? = some key) →
      ∃ snapshot, history.filter (·.key = key) = [snapshot] ∧
        ((∃ record, after.find? key = some record ∧ snapshot = record.toSnapshot) ∨
          after.find? key = none ∧ ∃ record, lastRemoved? key steps = some record ∧
            record.deleted.isSome ∧ snapshot = record.toSnapshot)) ∧
    ((∀ e ∈ steps, e.writtenKey? ≠ some key) →
      after.find? key = before.find? key ∧ ∀ snapshot ∈ history, snapshot.key ≠ key) := by
  intro steps history before after
  obtain ⟨result, hr⟩ := exists_result_of_returned t r counters returned
  have tracks : Tracks before after steps := tracks_reconcile s counters serves keyed own
  have agrees := tracks.agrees key
  have found : history.filter (·.key = key) = ((lastUnder? key steps).map Release.toSnapshot).toList := by
    rw [show history = lastWritten (written steps) from
      history_reconcile s engine d t token r counters state hr, filter_key_lastWritten, lastUnder?]
  refine ⟨fun wrote => ?_, fun spared => ?_⟩
  · obtain ⟨record, hr⟩ := (tracks.exists_writtenKey_iff key).1 wrote
    rw [hr] at found agrees
    refine ⟨record.toSnapshot, found, ?_⟩
    rcases agrees with held | ⟨gone, removed⟩
    · exact .inl ⟨record, held, rfl⟩
    · exact .inr ⟨gone, record, removed, deleted_of_lastRemoved? removed, rfl⟩
  · have hr : lastUnder? key steps = none := by
      by_contra h
      obtain ⟨e, he, hk⟩ := (tracks.exists_writtenKey_iff key).2 (Option.ne_none_iff_exists'.1 h)
      exact spared e he hk
    rw [hr] at found agrees
    exact ⟨agrees, by simpa using found⟩

/-! ### A call that removes a record from before

The engine stores a revision, removes the one that was there and its own, and fails. -/

namespace Sample

def stored : Records := Table.insert Table.empty second.key second

/-- Stores the first revision, removes both, and fails. -/
def removingEngine : Engine := fun _ =>
  .storage (.create pending.key pending) fun _ => .storage (.delete second.key) fun _ =>
    .storage (.delete pending.key) fun _ => .finish (.error timeout)

theorem keyed_stored : stored.Keyed := by
  refine Records.Keyed.insert (fun _ _ h => ?_) second
  cases h

theorem keepsKeys_removingEngine :
    ∀ e ∈ journal {} removingEngine Records.driver readings {} request stored, e.KeepsKeys := by
  intro e he
  rcases he with _ | ⟨_, _ | ⟨_, _ | ⟨_, h⟩⟩⟩
  · rfl
  · trivial
  · trivial
  · cases h

end Sample

theorem history_agrees_with_storage_removed :
    let steps := journal {} Sample.removingEngine Records.driver Sample.readings {} Sample.request
      Sample.stored
    let call := reconcile {} Sample.removingEngine Records.driver Sample.readings {} Sample.request {}
      Sample.stored
    Records.driver.Serves id ∧ Sample.stored.Keyed ∧ (∀ e ∈ steps, e.KeepsKeys) ∧
      call.outcome.Returned ∧ call.state.find? Sample.second.key = none ∧
      ∃ record, lastRemoved? Sample.second.key steps = some record ∧ record.deleted.isSome ∧
        call.object.statusOrNew.history.filter (·.key = Sample.second.key) = [record.toSnapshot] := by
  intro steps call
  have result : (trace {} Sample.removingEngine Records.driver Sample.readings {} Sample.request
    Sample.stored).result? = some (.error Sample.timeout) := rfl
  have returned : call.outcome.Returned :=
    returned_of_result Sample.readings Sample.request {} result (by decide) (by decide)
  obtain ⟨snapshot, only, held | ⟨gone, record, removed, deleted, rfl⟩⟩ :=
    (history_agrees_with_storage {} {} serves_driver Sample.keyed_stored Sample.keepsKeys_removingEngine
      returned Sample.second.key).1 ⟨_, .tail _ (.head _), by decide +kernel⟩
  · obtain ⟨record, found, -⟩ := held
    have gone : Table.find? call.state Sample.second.key = none := by rfl
    cases gone.symm.trans found
  · exact ⟨serves_driver, Sample.keyed_stored, Sample.keepsKeys_removingEngine, returned, gone, record,
      removed, deleted, only⟩

end Install

end ReleaseControl
