import ReleaseControl.Install.Reconcile
import ReleaseControl.Proofs.Engine.Journal
import ReleaseControl.Proofs.History.LastWritten
import ReleaseControl.Proofs.Number.Count
import ReleaseControl.Proofs.Object.Status

/-!
# The exits of an install

A call is interrupted, or its engine fails without a write, fails after a write, or succeeds. A failure
after a write that cannot be counted, among all failures or towards remediation, breaks off there.

* `journal`: what the engine does in a call; `trace_reports`: it decides what is reported.
* `merged`, `counted`, `told`, `failed`: the object on its way through a call.
* **`settle_cases`**: case analysis over the exits; `objects_settle`: over the objects of a call.
-/

namespace ReleaseControl

/-- The call came back, with or without an error. -/
def Outcome.Returned : Outcome → Prop
  | .ok | .error _ => True
  | .dropped | .panicked _ => False

instance : DecidablePred Outcome.Returned
  | .ok | .error _ => .isTrue trivial
  | .dropped | .panicked _ => .isFalse id

namespace Install

variable {σ : Type}

/-! ## What the engine does -/

/-- The journal of the engine in a call, which does nothing without room for its log. -/
def journal (s : Settings) (engine : Engine) (d : Driver σ) (t : Readings) (token : CancelToken)
    (r : Request) (state : σ) : List Entry :=
  if hasRoom s then (program engine token r).journal d t.storage state 0 else []

section Trace

variable {s : Settings} (engine : Engine) (d : Driver σ) (t : Readings) (token : CancelToken)
  (r : Request) (state : σ)

theorem trace_of_room (room : hasRoom s = true) : trace s engine d t token r state =
    (program engine token r).run d t.storage
      { state := state, log := { capacity := s.logCapacity }, cancelled := token.cancelled } := by
  have fits : LogBuffer.new? s.logCapacity = some { capacity := s.logCapacity } := by
    unfold hasRoom LogBuffer.new? at room
    unfold LogBuffer.new?
    split at room
    · next le => exact if_pos le
    · cases room
  rw [trace, fits]

theorem trace_of_no_room (full : ¬ hasRoom s = true) : trace s engine d t token r state =
    { state := state, log := default, ending := .unstarted } := by
  have none : LogBuffer.new? s.logCapacity = none := by simpa [hasRoom] using full
  rw [trace, none]

variable (s)

theorem trace_reports : (trace s engine d t token r state).reports =
    written (journal s engine d t token r state) := by
  by_cases room : hasRoom s = true
  · rw [trace_of_room engine d t token r state room, journal, if_pos room, run_reports]
    exact List.nil_append _
  · rw [trace_of_no_room engine d t token r state room, journal, if_neg room]
    rfl

theorem started_run (clock : Nat → Instant) (p : Program) (progress : Progress σ) :
    (p.run d clock progress).started = true := by
  induction p generalizing progress with
  | finish _ => rfl
  | hang => rfl
  | panic _ => rfl
  | log line next ih => exact ih _
  | storage op next ih => exact ih _ _
  | report r next ih => exact ih _
  | cancel next ih => exact ih _

/-- **The engine starts** if there is room for its log. -/
theorem started_trace : (trace s engine d t token r state).started = hasRoom s := by
  by_cases room : hasRoom s = true
  · rw [trace_of_room engine d t token r state room, started_run, room]
  · rw [trace_of_no_room engine d t token r state room, Bool.not_eq_true] at *
    rw [room]
    rfl

end Trace

/-! ## Objects on their way through a call -/

/-- The object once the written records are merged into its history, which the call has cleared. -/
def merged (r : Request) (rs : List Release) : HelmRelease :=
  (start r.object).mergeObserved (ObservedSet.ofReleases rs)

theorem sameDeclaration_start (o : HelmRelease) : (start o).SameDeclaration o :=
  o.sameDeclaration_modifyStatus _

theorem sameDeclaration_merged (r : Request) (rs : List Release) :
    (merged r rs).SameDeclaration r.object :=
  ((start r.object).sameDeclaration_mergeObserved _).trans (sameDeclaration_start r.object)

theorem statusOrNew_merged (r : Request) (rs : List Release) : (merged r rs).statusOrNew =
    { r.object.statusOrNew with lastAttempted := some .install, history := lastWritten rs } := by
  rw [merged, HelmRelease.statusOrNew_mergeObserved, ← mergeInto_nil]
  rfl

theorem failures_merged (r : Request) (rs : List Release) :
    (merged r rs).statusOrNew.failures = r.object.statusOrNew.failures := by
  rw [statusOrNew_merged]

theorem installFailures_merged (r : Request) (rs : List Release) :
    (merged r rs).statusOrNew.installFailures = r.object.statusOrNew.installFailures := by
  rw [statusOrNew_merged]

theorem conditions_merged (r : Request) (rs : List Release) :
    (merged r rs).conditions = r.object.conditions := by
  rw [HelmRelease.conditions, statusOrNew_merged]
  rfl

/-- The object with a failure counted among all. -/
def counted (o : HelmRelease) : HelmRelease :=
  o.modifyStatus fun s => { s with failures := s.failures + 1 }

/-- The notice of a failure, given over an object that is not full. -/
def told (t : Readings) (r : Request) (log : LogBuffer) (e : ActionError) (o : HelmRelease) : Emission :=
  fail t r log e (counted o)

/-- The object once a failure has been counted towards remediation as well. -/
def failed (t : Readings) (r : Request) (log : LogBuffer) (e : ActionError) (o : HelmRelease) :
    HelmRelease :=
  (told t r log e o).object.modifyStatus fun s => { s with installFailures := s.installFailures + 1 }

theorem modifyStatus?_of_ne {o : HelmRelease} (h : o.statusOrNew.failures ≠ Int64.maxValue) :
    o.modifyStatus? HelmReleaseStatus.countFailure? = some (counted o) := by
  rw [HelmRelease.modifyStatus?, HelmReleaseStatus.countFailure?, countUp?_of_ne h]
  rfl

theorem modifyStatus?_of_eq {o : HelmRelease} (h : o.statusOrNew.failures = Int64.maxValue) :
    o.modifyStatus? HelmReleaseStatus.countFailure? = none := by
  rw [HelmRelease.modifyStatus?, HelmReleaseStatus.countFailure?, countUp?_eq_none_iff.2 h]
  rfl

theorem remedied?_of_ne {o : HelmRelease} (h : o.statusOrNew.installFailures ≠ Int64.maxValue) :
    remedied? o = some (o.modifyStatus fun s => { s with installFailures := s.installFailures + 1 }) := by
  rw [remedied?, HelmRelease.modifyStatus?, InstallRemediation.countFailure?, countUp?_of_ne h]
  rfl

theorem remedied?_of_eq {o : HelmRelease} (h : o.statusOrNew.installFailures = Int64.maxValue) :
    remedied? o = none := by
  rw [remedied?, HelmRelease.modifyStatus?, InstallRemediation.countFailure?, countUp?_eq_none_iff.2 h]
  rfl

/-! ## The exits -/

variable (t : Readings) (r : Request) (counters : Counters) {trace : Trace σ}

/-- **An interrupted call** leaves the object as the engine found it. -/
theorem settle_of_none (h : trace.result? = none) : settle t r counters trace =
    ⟨interruption trace, interrupted r trace, [], counters, trace.state⟩ := by
  rw [settle, h]

/-- **A failure without a write** is handed back. -/
theorem settle_of_error_nil {e : ActionError} (h : trace.result? = some (.error e))
    (hw : trace.reports = []) : settle t r counters trace =
      ⟨.error e, merged r trace.reports, [], counters.countReconciliation label .error,
        trace.state⟩ := by
  have he : (ObservedSet.ofReleases trace.reports).isEmpty = true := by
    rw [isEmpty_ofReleases, hw]
    rfl
  simp only [settle, h, he, if_true, merged]

theorem settle_of_error {e : ActionError} (h : trace.result? = some (.error e))
    (hw : trace.reports ≠ []) :
    settle t r counters trace = settleFailure t r counters trace e (merged r trace.reports) := by
  have he : (ObservedSet.ofReleases trace.reports).isEmpty = false := by
    rw [isEmpty_ofReleases, List.isEmpty_eq_false_iff]
    exact hw
  simp only [settle, h, he, merged, Bool.false_eq_true, if_false]

/-- **A success** is told, and the call returns. -/
theorem settle_of_ok {release : Release} (h : trace.result? = some (.ok release)) :
    settle t r counters trace =
      ⟨.ok, (succeed t release (merged r trace.reports)).1,
        [(succeed t release (merged r trace.reports)).2],
        counters.countReconciliation label .success, trace.state⟩ := by
  simp only [settle, h, merged]

section Failure

variable {e : ActionError} (h : trace.result? = some (.error e)) (hw : trace.reports ≠ [])

include h hw

/-- **A failure that cannot be counted** is neither marked nor told. -/
theorem settle_uncounted (full : r.object.statusOrNew.failures = Int64.maxValue) :
    settle t r counters trace =
      ⟨.panicked overflowMessage, merged r trace.reports, [], counters, trace.state⟩ := by
  have count := modifyStatus?_of_eq ((failures_merged r trace.reports).trans full)
  simp only [settle_of_error t r counters h hw, settleFailure, count]

/-- **A failure that cannot be counted towards remediation** is marked and told. -/
theorem settle_unremedied (room : r.object.statusOrNew.failures ≠ Int64.maxValue)
    (full : r.object.statusOrNew.installFailures = Int64.maxValue) : settle t r counters trace =
      ⟨.panicked overflowMessage, (told t r trace.log e (merged r trace.reports)).object,
        [told t r trace.log e (merged r trace.reports)], counters, trace.state⟩ := by
  have count := modifyStatus?_of_ne ((failures_merged r trace.reports).trans_ne room)
  have remedy : remedied? (told t r trace.log e (merged r trace.reports)).object = none :=
    remedied?_of_eq ((installFailures_merged r trace.reports).trans full)
  rw [told] at remedy
  simp only [settle_of_error t r counters h hw, settleFailure, count, remedy]
  rfl

/-- **A failure after a write** is counted, marked and told, and the call returns. -/
theorem settle_failed (room : r.object.statusOrNew.failures ≠ Int64.maxValue)
    (roomInstall : r.object.statusOrNew.installFailures ≠ Int64.maxValue) :
    settle t r counters trace =
      ⟨.ok, failed t r trace.log e (merged r trace.reports),
        [told t r trace.log e (merged r trace.reports)],
        (counters.countRemediationFailure label).countReconciliation label .failure, trace.state⟩ := by
  have count := modifyStatus?_of_ne ((failures_merged r trace.reports).trans_ne room)
  have remedy : remedied? (told t r trace.log e (merged r trace.reports)).object =
      some (failed t r trace.log e (merged r trace.reports)) :=
    remedied?_of_ne ((installFailures_merged r trace.reports).trans_ne roomInstall)
  rw [told] at remedy
  simp only [settle_of_error t r counters h hw, settleFailure, count, remedy]
  rfl

end Failure

/-- **What holds at each exit holds of every call.** -/
theorem settle_cases {P : Call σ → Prop} (trace : Trace σ)
    (interrupted : trace.result? = none →
      P ⟨interruption trace, interrupted r trace, [], counters, trace.state⟩)
    (handedBack : ∀ e, trace.result? = some (.error e) → trace.reports = [] →
      P ⟨.error e, merged r trace.reports, [], counters.countReconciliation label .error, trace.state⟩)
    (uncounted : ∀ e, trace.result? = some (.error e) → trace.reports ≠ [] →
      r.object.statusOrNew.failures = Int64.maxValue →
      P ⟨.panicked overflowMessage, merged r trace.reports, [], counters, trace.state⟩)
    (unremedied : ∀ e, trace.result? = some (.error e) → trace.reports ≠ [] →
      r.object.statusOrNew.failures ≠ Int64.maxValue →
      r.object.statusOrNew.installFailures = Int64.maxValue →
      P ⟨.panicked overflowMessage, (told t r trace.log e (merged r trace.reports)).object,
        [told t r trace.log e (merged r trace.reports)], counters, trace.state⟩)
    (failed : ∀ e, trace.result? = some (.error e) → trace.reports ≠ [] →
      r.object.statusOrNew.failures ≠ Int64.maxValue →
      r.object.statusOrNew.installFailures ≠ Int64.maxValue →
      P ⟨.ok, failed t r trace.log e (merged r trace.reports),
        [told t r trace.log e (merged r trace.reports)],
        (counters.countRemediationFailure label).countReconciliation label .failure, trace.state⟩)
    (succeeded : ∀ release, trace.result? = some (.ok release) →
      P ⟨.ok, (succeed t release (merged r trace.reports)).1,
        [(succeed t release (merged r trace.reports)).2],
        counters.countReconciliation label .success, trace.state⟩) :
    P (settle t r counters trace) := by
  cases h : trace.result? with
  | none =>
    rw [settle_of_none t r counters h]
    exact interrupted h
  | some result =>
    cases result with
    | ok release =>
      rw [settle_of_ok t r counters h]
      exact succeeded release h
    | error e =>
      by_cases hw : trace.reports = []
      · rw [settle_of_error_nil t r counters h hw]
        exact handedBack e h hw
      by_cases full : r.object.statusOrNew.failures = Int64.maxValue
      · rw [settle_uncounted t r counters h hw full]
        exact uncounted e h hw full
      by_cases fullInstall : r.object.statusOrNew.installFailures = Int64.maxValue
      · rw [settle_unremedied t r counters h hw full fullInstall]
        exact unremedied e h hw full fullInstall
      · rw [settle_failed t r counters h hw full fullInstall]
        exact failed e h hw full fullInstall

/-- **What a call keeps of its object**, at its end and where it gives a notice. -/
theorem objects_settle {P : HelmRelease → Prop} (trace : Trace σ)
    (untouched : trace.started = false → P r.object) (started : P (start r.object)) (merged : P (merged r trace.reports))
    (told : ∀ o e, P o → P (told t r trace.log e o).object)
    (failed : ∀ o e, P o → P (failed t r trace.log e o))
    (succeeded : ∀ o release, P o → P (succeed t release o).1) :
    P (settle t r counters trace).object ∧
      ∀ e ∈ (settle t r counters trace).emissions, P e.object := by
  refine settle_cases t r counters (P := fun call => P call.object ∧ ∀ e ∈ call.emissions, P e.object)
    trace (fun _ => ?_) (fun _ _ _ => ?_) (fun _ _ _ _ => ?_) (fun e _ _ _ _ => ?_)
    (fun e _ _ _ _ => ?_) fun release _ => ?_
  · refine ⟨?_, List.forall_mem_nil _⟩
    unfold interrupted
    split
    · exact started
    · next unstarted => exact untouched (by simpa using unstarted)
  · exact ⟨merged, List.forall_mem_nil _⟩
  · exact ⟨merged, List.forall_mem_nil _⟩
  · exact ⟨told _ e merged, List.forall_mem_singleton.2 (told _ e merged)⟩
  · exact ⟨failed _ e merged, List.forall_mem_singleton.2 (told _ e merged)⟩
  · exact ⟨succeeded _ release merged, List.forall_mem_singleton.2 (succeeded _ release merged)⟩

theorem state_settle (trace : Trace σ) : (settle t r counters trace).state = trace.state :=
  settle_cases t r counters (P := fun call => call.state = trace.state) trace (fun _ => rfl)
    (fun _ _ _ => rfl) (fun _ _ _ _ => rfl) (fun _ _ _ _ _ => rfl) (fun _ _ _ _ _ => rfl) fun _ _ => rfl

theorem reconcile_eq (s : Settings) (engine : Engine) (d : Driver σ) (token : CancelToken) (state : σ) :
    reconcile s engine d t token r counters state =
      { settle t r counters (Install.trace s engine d t token r state) with
        object := (settle t r counters
          (Install.trace s engine d t token r state)).object.summarize t.summarized } := rfl

theorem interruption_not_returned (h : trace.result? = none) : ¬ (interruption trace).Returned := by
  unfold interruption
  cases he : trace.ending with
  | finished result => rw [Trace.result?, he] at h; cases h
  | unstarted | hung | panicked _ => exact id

theorem started_of_result {result : Except ActionError Release} (h : trace.result? = some result) :
    trace.started = true := by
  cases he : trace.ending with
  | unstarted => rw [Trace.result?, he] at h; cases h
  | finished _ | hung | panicked _ => rw [Trace.started, he]

theorem exists_result_of_returned (h : (settle t r counters trace).outcome.Returned) :
    ∃ result, trace.result? = some result := by
  refine Option.ne_none_iff_exists'.1 fun none => ?_
  rw [settle_of_none t r counters none] at h
  exact interruption_not_returned none h

theorem returned_of_result {result : Except ActionError Release} (h : trace.result? = some result)
    (room : r.object.statusOrNew.failures ≠ Int64.maxValue)
    (roomInstall : r.object.statusOrNew.installFailures ≠ Int64.maxValue) :
    (settle t r counters trace).outcome.Returned := by
  refine settle_cases t r counters (P := fun call => call.outcome.Returned) trace (fun none => ?_)
    (fun _ _ _ => trivial) (fun _ _ _ full => absurd full room)
    (fun _ _ _ _ full => absurd full roomInstall) (fun _ _ _ _ _ => trivial) fun _ _ => trivial
  cases none.symm.trans h

end Install

end ReleaseControl
