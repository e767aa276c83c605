import ReleaseControl.Proofs.Install.History

/-!
# What a success tells

A success tells of the latest snapshot of the history, and the history stands in the order in which its
revisions were first written.

* `LastStored`: the last write of a journal stored a release.
* `Newest`: the revision that was the last to be written for the first time.
* **`success_tells_newest`**: when a success tells of the release that was stored last.
-/

namespace ReleaseControl

/-- The step stored a record. -/
def Entry.Stored (r : Release) (e : Entry) : Prop :=
  ∃ now key, e = .performed now (.create key r) (.ok ()) ∨ e = .performed now (.update key r) (.ok ())

/-- The last write of a journal stored a record. -/
def LastStored (r : Release) (journal : List Entry) : Prop :=
  ∃ before e after, journal = before ++ e :: after ∧ e.Stored r ∧ ∀ x ∈ after, ¬ x.Wrote

theorem LastStored.of_getLast? {r : Release} {journal : List Entry} {e : Entry}
    (last : journal.getLast? = some e) (stored : e.Stored r) : LastStored r journal := by
  obtain ⟨before, rfl⟩ := List.getLast?_eq_some_iff.1 last
  exact ⟨before, e, [], rfl, stored, fun _ h => absurd h List.not_mem_nil⟩

theorem LastStored.exists_written {r : Release} {journal : List Entry} (h : LastStored r journal) :
    ∃ earlier, written journal = earlier ++ [r] := by
  obtain ⟨before, e, after, rfl, ⟨now, key, stored⟩, quiet⟩ := h
  refine ⟨written before, ?_⟩
  have record : e.record? = some r := by
    rcases stored with rfl | rfl <;> rfl
  rw [written_append, written_cons, written_eq_nil.2 quiet, record]
  rfl

/-- Of the revisions of some records, this one was the last to be written for the first time. -/
def Newest (v : String × Int32) (rs : List Release) : Prop :=
  (rs.map Release.revision).eraseDups.getLast? = some v

/-- The latest snapshot of what was written is that of the record stored last, or of another
revision. -/
theorem latest?_lastWritten (earlier : List Release) (r : Release) :
    ∃ cur, (lastWritten (earlier ++ [r])).latest? = some cur ∧
      (Newest r.revision (earlier ++ [r]) → cur = r.toSnapshot) ∧
      (¬ Newest r.revision (earlier ++ [r]) → cur.revision ≠ r.revision) := by
  have nonempty : lastWritten (earlier ++ [r]) ≠ [] := by simp [lastWritten_eq_nil]
  obtain ⟨cur, latest⟩ := Option.ne_none_iff_exists'.1 (mt List.getLast?_eq_none_iff.1 nonempty)
  -- the revisions of the history are those written, in the order of their first writes
  have newest : Newest cur.revision (earlier ++ [r]) := by
    rw [Newest, ← map_revision_lastWritten, List.getLast?_map, latest]
    rfl
  refine ⟨cur, latest, fun own => ?_, fun other same => other (same ▸ newest)⟩
  have revision_eq : cur.revision = r.revision := Option.some.inj (newest.symm.trans own)
  obtain ⟨q, -, rfl, last⟩ := mem_lastWritten (List.mem_of_getLast? latest)
  have stored_last : (earlier ++ [r]).reverse.find? (·.revision = r.revision) = some r := by simp
  rw [revision_toSnapshot] at revision_eq
  rw [revision_eq, stored_last] at last
  rw [Option.some.inj last]

namespace Install

variable {σ : Type}

/-! ## What a call tells of -/

/-- A success tells of a snapshot: in the outcome of the release and in its notice, and in whether
tests are awaited. -/
structure Tells (r : Request) (call : Call σ) (cur : Snapshot) : Prop where
  released : ∃ c, call.object.conditions.get? .released = some c ∧ c.message = successMessage cur
  noticed : ∃ e, call.emissions = [e] ∧ e.notice.message = successMessage cur ∧
    e.notice.metadata = { revision := cur.chartVersion, token := cur.configDigest }
  awaited : call.object.test.enable = true → cur.hasBeenTested = false →
    ∃ c, call.object.conditions.get? .testSuccess = some c ∧ c.status = .unknown ∧
      c.reason = awaitingReason ∧ c.message = awaitingMessage cur
  unawaited : ¬ (call.object.test.enable = true ∧ cur.hasBeenTested = false) →
    call.object.Keeps r.object .testSuccess

variable {s : Settings} {engine : Engine} {d : Driver σ} {t : Readings} {token : CancelToken}
  {r : Request} {state : σ}

/-- **A success tells of the current release**: the latest of the history. -/
theorem tells_current (counters : Counters) {release : Release}
    (succeeded : (trace s engine d t token r state).result? = some (.ok release)) :
    Tells r (reconcile s engine d t token r counters state)
      (current release (merged r (written (journal s engine d t token r state)))) := by
  rw [reconcile_eq, settle_of_ok t r counters succeeded, trace_reports]
  generalize written (journal s engine d t token r state) = rs
  have declared := sameDeclaration_succeed t release (merged r rs)
  -- readiness is computed at the end, and touches neither the outcome nor the tests
  have read : ∀ type, type ≠ .ready →
      ((succeed t release (merged r rs)).1.summarize t.summarized).conditions.get? type =
        (succeed t release (merged r rs)).1.conditions.get? type := fun type ht =>
    Conditions.get?_congr (HelmRelease.keeps_summarize _ _ ht)
  have enabled : ((succeed t release (merged r rs)).1.summarize t.summarized).test =
      (merged r rs).test :=
    ((HelmRelease.sameDeclaration_summarize _ _).trans declared).test_eq
  refine ⟨?_, ⟨_, rfl, rfl, rfl⟩, ?_, ?_⟩
  · obtain ⟨c, found, -, -, message, -⟩ := get?_released_succeed t release (merged r rs)
    exact ⟨c, (read .released (by decide)).trans found, message⟩
  · intro enable untested
    rw [enabled] at enable
    obtain ⟨c, found, status, reason, message, -⟩ := get?_testSuccess_succeed t ⟨enable, untested⟩
    exact ⟨c, (read .testSuccess (by decide)).trans found, status, reason, message⟩
  · intro unawaited
    rw [enabled] at unawaited
    have kept : (succeed t release (merged r rs)).1.Keeps (merged r rs) .testSuccess :=
      keeps_succeed_of_not_awaits t (by decide) unawaited
    exact ((HelmRelease.keeps_summarize _ _ (by decide)).trans kept).trans (keeps_merged r rs _)

/-- **When a success tells of the release stored last.** It tells of the latest snapshot of the
history. That is the snapshot of the release if no other revision was first written after it, and
else the snapshot of another revision. -/
theorem success_tells_newest (s : Settings) (engine : Engine) (d : Driver σ) (t : Readings)
    (token : CancelToken) (r : Request) (counters : Counters) (state : σ) {release : Release}
    (succeeded : (trace s engine d t token r state).result? = some (.ok release))
    (stored : LastStored release (journal s engine d t token r state)) :
    let call := reconcile s engine d t token r counters state
    let records := written (journal s engine d t token r state)
    ∃ cur, call.object.statusOrNew.history.latest? = some cur ∧ Tells r call cur ∧
      (Newest release.revision records → cur = release.toSnapshot) ∧
      (¬ Newest release.revision records → cur.revision ≠ release.revision) := by
  intro call records
  obtain ⟨earlier, last⟩ := stored.exists_written
  obtain ⟨cur, latest, own, other⟩ := latest?_lastWritten earlier release
  rw [← last] at latest own other
  have history : call.object.statusOrNew.history = lastWritten records :=
    history_reconcile s engine d t token r counters state succeeded
  have told : current release (merged r records) = cur := by
    rw [current, statusOrNew_merged]
    exact congrArg (Option.getD · release.toSnapshot) latest
  refine ⟨cur, history ▸ latest, ?_, own, other⟩
  rw [← told]
  exact tells_current counters succeeded

/-! ### Releases made after a second revision was begun -/

namespace Sample

def secondDeployed : Release := { second with status := .deployed }

/-- The first revision, once the second has taken its place. -/
def superseded : Release := { deployed with status := .superseded }

/-- Makes a release and replaces it by a second revision, which is begun last. -/
def replacingEngine : Engine := fun _ =>
  .storage (.create "one" deployed) fun _ => .storage (.create "two" second) fun _ =>
    .storage (.update "one" superseded) fun _ => .storage (.update "two" secondDeployed) fun _ =>
      .finish (.ok secondDeployed)

/-- Begins a second revision, marks the first one as superseded, and completes the second one. -/
def overtakingEngine : Engine := fun _ =>
  .storage (.create "two" second) fun _ => .storage (.update "one" superseded) fun _ =>
    .storage (.update "two" secondDeployed) fun _ => .finish (.ok secondDeployed)

def released : Records := Table.empty.insert "one" deployed

end Sample

theorem success_tells_newest_replacing :
    let call := reconcile {} Sample.replacingEngine Records.driver Sample.readings {} Sample.request {}
      Table.empty
    LastStored Sample.secondDeployed
        (journal {} Sample.replacingEngine Records.driver Sample.readings {} Sample.request Table.empty) ∧
      Tells Sample.request call Sample.secondDeployed.toSnapshot := by
  have stored : LastStored Sample.secondDeployed
      (journal {} Sample.replacingEngine Records.driver Sample.readings {} Sample.request Table.empty) :=
    .of_getLast? rfl ⟨default, "two", .inr rfl⟩
  obtain ⟨cur, -, told, own, -⟩ := success_tells_newest {} Sample.replacingEngine Records.driver
    Sample.readings {} Sample.request {} Table.empty rfl stored
  rw [own rfl] at told
  exact ⟨stored, told⟩

/-- A success that tells of the first revision, although the second one is the release that the engine
answers with and the one stored last. -/
theorem success_tells_superseded :
    let call := reconcile {} Sample.overtakingEngine Records.driver Sample.readings {} Sample.request {}
      Sample.released
    (trace {} Sample.overtakingEngine Records.driver Sample.readings {} Sample.request
        Sample.released).result? = some (.ok Sample.secondDeployed) ∧
      LastStored Sample.secondDeployed
        (journal {} Sample.overtakingEngine Records.driver Sample.readings {} Sample.request
          Sample.released) ∧
      Tells Sample.request call Sample.superseded.toSnapshot ∧
      ¬ Tells Sample.request call Sample.secondDeployed.toSnapshot := by
  intro call
  have succeeded : (trace {} Sample.overtakingEngine Records.driver Sample.readings {} Sample.request
      Sample.released).result? = some (.ok Sample.secondDeployed) := rfl
  have told : Tells Sample.request call Sample.superseded.toSnapshot := tells_current {} succeeded
  refine ⟨succeeded, .of_getLast? rfl ⟨default, "two", .inr rfl⟩, told, ?_⟩
  intro other
  obtain ⟨e, one, message, -⟩ := told.noticed
  obtain ⟨e', one', message', -⟩ := other.noticed
  have same : e = e' := List.head_eq_of_cons_eq (one.symm.trans one')
  have wording : successMessage Sample.superseded.toSnapshot =
      successMessage Sample.secondDeployed.toSnapshot := message.symm.trans (same ▸ message')
  exact absurd wording (by decide)

end Install

end ReleaseControl
