import ReleaseControl.Proofs.Condition.Unique
import ReleaseControl.Proofs.History.Unique
import ReleaseControl.Proofs.Install.Run

/-!
# At most one of each

A status lists each type of condition and each revision of a release once, and no step of a run makes it
list one twice. An install clears the history first, so its history is without repetition whatever was
there.
-/

namespace ReleaseControl

variable {σ : Type}

/-- No type of condition and no revision of a release is listed twice. -/
structure HelmReleaseStatus.Unique (s : HelmReleaseStatus) : Prop where
  conditions : s.conditions.OfDistinctTypes
  history : s.history.OfDistinctTargets

/-! ## Changes -/

/-- **A change lists nothing twice.** -/
theorem HelmRelease.unique_apply {o : HelmRelease} (h : o.statusOrNew.Unique) (c : Change) :
    (c.apply o).statusOrNew.Unique := by
  obtain ⟨conditions, history⟩ := h
  cases c with
  | set now c => exact ⟨conditions.set now c, history⟩
  | setFirst now c => exact ⟨conditions.setFirst now c, history⟩
  | delete type => exact ⟨conditions.delete type, history⟩
  | mark now type status reason message => exact ⟨conditions.set now _, history⟩
  | summarize now =>
    rw [Change.apply, statusOrNew_summarize]
    exact ⟨conditions.summarize now _ _, history⟩
  | merge observed => exact ⟨conditions, history.mergeInto observed⟩
  | truncate max => exact ⟨conditions, history.truncate max⟩
  | clear => exact ⟨conditions, List.nodup_nil⟩
  | countFailure =>
    rcases o.getD_modifyStatus? HelmReleaseStatus.countFailure? with same | ⟨s, some, more⟩
    · rw [Change.apply, same]
      exact ⟨conditions, history⟩
    · obtain ⟨n, -, rfl⟩ := Option.map_eq_some_iff.1 some
      rw [Change.apply, more]
      exact ⟨conditions, history⟩
  | countInstallFailure remediation =>
    rcases o.getD_modifyStatus? remediation.countFailure? with same | ⟨s, some, more⟩
    · rw [Change.apply, same]
      exact ⟨conditions, history⟩
    · obtain ⟨n, -, rfl⟩ := Option.map_eq_some_iff.1 some
      rw [Change.apply, more]
      exact ⟨conditions, history⟩

namespace HelmReleaseStatus.Unique

variable {o : HelmRelease}

theorem mark (h : o.statusOrNew.Unique) (now : Instant) (type : ConditionType) (status : ConditionStatus)
    (reason message : String) : (o.mark now type status reason message).statusOrNew.Unique :=
  ⟨h.conditions.set now _, h.history⟩

theorem summarize (h : o.statusOrNew.Unique) (now : Instant) : (o.summarize now).statusOrNew.Unique := by
  rw [HelmRelease.statusOrNew_summarize]
  exact ⟨h.conditions.summarize now _ _, h.history⟩

end HelmReleaseStatus.Unique

namespace Install

/-! ## Installs -/

section Settle

variable (t : Readings) (r : Request) {o : HelmRelease}

theorem unique_succeed (h : o.statusOrNew.Unique) (release : Release) :
    (succeed t release o).1.statusOrNew.Unique := by
  have marked := h.mark t.released .released .true succeededReason (successMessage (current release o))
  by_cases hw : Awaits release o
  · rw [succeed_fst_of_awaits t hw]
    exact marked.mark t.awaited .testSuccess .unknown awaitingReason (awaitingMessage (current release o))
  · rw [succeed_fst_of_not_awaits t hw]
    exact marked

/-- **An install lists nothing twice**, at its end and where it gives its notice. -/
theorem unique_settle (h : r.object.statusOrNew.Unique) (counters : Counters) (trace : Trace σ) :
    (settle t r counters trace).object.statusOrNew.Unique ∧
      ∀ e ∈ (settle t r counters trace).emissions, e.object.statusOrNew.Unique := by
  have cleared : (start r.object).statusOrNew.Unique := ⟨h.conditions, List.nodup_nil⟩
  refine objects_settle t r counters trace (P := fun o => o.statusOrNew.Unique) (fun _ => h) cleared
    ⟨cleared.conditions, cleared.history.mergeInto _⟩ (fun o e ho => ?_) (fun o e ho => ?_)
    fun o release ho => unique_succeed t ho release
  · exact ⟨ho.conditions.set t.released _, ho.history⟩
  · exact ⟨ho.conditions.set t.released _, ho.history⟩

theorem distinctTargets_settle (counters : Counters) {trace : Trace σ} (started : trace.started = true) :
    (settle t r counters trace).object.statusOrNew.history.OfDistinctTargets ∧
      ∀ e ∈ (settle t r counters trace).emissions, e.object.statusOrNew.history.OfDistinctTargets := by
  have cleared : (start r.object).statusOrNew.history.OfDistinctTargets := List.nodup_nil
  refine objects_settle t r counters trace (P := fun o => o.statusOrNew.history.OfDistinctTargets)
    (fun unstarted => ?_) cleared (cleared.mergeInto _) (fun o e ho => ho) (fun o e ho => ho)
    fun o release ho => ?_
  · rw [started] at unstarted
    cases unstarted
  · rw [statusOrNew_succeed]
    exact ho

end Settle

variable {s : Settings} {d : Driver σ} {a : Attempt} {w : Standing σ}

theorem unique_call (h : (a.request w.object.status).object.statusOrNew.Unique) :
    (a.call s d w).object.statusOrNew.Unique := by
  obtain ⟨ending, notices⟩ := unique_settle a.readings _ h w.counters (a.trace s d w)
  rcases a.object_call s d w with through | ⟨e, he, dropped⟩
  · rw [through]
    exact ending.summarize _
  · rw [dropped]
    exact (notices e he).summarize _

theorem distinctTargets_call (started : (a.trace s d w).started = true) :
    (a.call s d w).object.statusOrNew.history.OfDistinctTargets := by
  obtain ⟨ending, notices⟩ :=
    distinctTargets_settle a.readings (a.request w.object.status) w.counters started
  rcases a.object_call s d w with through | ⟨e, he, dropped⟩
  · rw [through, HelmRelease.statusOrNew_summarize]
    exact ending
  · rw [dropped, HelmRelease.statusOrNew_summarize]
    exact notices e he

/-- **The step**: neither a change nor an install lists anything twice. -/
theorem unique_perform (step : Step) {w : Standing σ} (h : w.object.statusOrNew.Unique) :
    (step.perform s d w).after.object.statusOrNew.Unique := by
  cases step with
  | change c => exact HelmRelease.unique_apply h c
  | install a => exact unique_call h

/-- **At most one of each.** A status that lists no type of condition and no revision of a release twice
does so after every step of a run, whatever the changes and however the installs end. After every install
of a run that had room for its log, and so after every one that returned, the history lists no revision
twice, whatever it was before. -/
theorem uniqueness (s : Settings) (d : Driver σ) (steps : List Step) (w : Standing σ) :
    (w.object.statusOrNew.Unique →
      ∀ done ∈ run s d steps w, done.after.object.statusOrNew.Unique) ∧
    ∀ done ∈ run s d steps w, ∀ call, done.call? = some call →
      hasRoom s = true ∨ call.outcome.Returned → call.object.statusOrNew.history.OfDistinctTargets := by
  constructor
  · refine forall_mem_trail (P := fun w : Standing σ => w.object.statusOrNew.Unique)
      (fun step w hw => ?_) steps
    exact ⟨unique_perform step hw, unique_perform step hw⟩
  · refine forall_mem_trail (P := fun _ => True) (fun step w _ => ⟨fun call hc begun => ?_, trivial⟩)
      steps trivial
    cases step with
    | change c => cases hc
    | install a =>
      cases hc
      refine distinctTargets_call ?_
      rcases begun with room | returned
      · exact (started_trace s _ d _ _ _ _).trans room
      · rw [Attempt.call_eq_of_returned returned] at returned
        obtain ⟨result, h⟩ := exists_result_of_returned _ _ _ returned
        exact started_of_result h

/-! ### A revision that is observed twice

The observed set holds one revision twice, and readiness is put in front of a condition that is set
again; the install fails after a write. -/

namespace Sample

def unique : Standing Records := standing { conditions := [{ type := .released, status := .true }] }

def repeatedSteps : List Step :=
  [.change (.merge ⟨[pending.toSnapshot, { pending with status := .deployed }.toSnapshot]⟩), .change (.summarize default),
    .change (.set default { type := .released, status := .false }), install engine]

end Sample

theorem uniqueness_repeated :
    Sample.unique.object.statusOrNew.Unique ∧
      ∀ done ∈ run {} Records.driver Sample.repeatedSteps Sample.unique,
        done.after.object.statusOrNew.Unique := by
  have unique : Sample.unique.object.statusOrNew.Unique :=
    ⟨List.nodup_singleton _, List.nodup_nil⟩
  exact ⟨unique, (uniqueness {} Records.driver Sample.repeatedSteps Sample.unique).1 unique⟩

end Install

end ReleaseControl
