import ReleaseControl.Proofs.Install.Readiness
import ReleaseControl.Proofs.Install.Verdict

/-!
# The status after an install

Conditions aside, the verdict on a call and the records that it wrote decide the status that it leaves.
Only the count towards remediation comes after the notice, so a call that does not come back lacks it.

* `Verdict.noted`, `Verdict.ended`: the status where a call gives its notice, and at its end.
* **`bare_call`**: the status after any call; `returned_call_of_failed`: when a failure comes back.
-/

namespace ReleaseControl

variable {σ : Type}

def HelmReleaseStatus.bare (s : HelmReleaseStatus) : HelmReleaseStatus := { s with conditions := [] }

theorem HelmRelease.bare_summarize (o : HelmRelease) (now : Instant) :
    (o.summarize now).statusOrNew.bare = o.statusOrNew.bare :=
  (congrArg HelmReleaseStatus.bare (o.statusOrNew_summarize now) :)

namespace Install

/-! ## The exits -/

section Exits

variable (t : Readings) (r : Request)

theorem bare_merged (rs : List Release) : (merged r rs).statusOrNew.bare =
    { r.object.statusOrNew.bare with
      lastAttempted := some .install
      history := lastWritten rs } :=
  (congrArg HelmReleaseStatus.bare (statusOrNew_merged r rs) :)

theorem bare_told (log : LogBuffer) (e : ActionError) (o : HelmRelease) :
    (told t r log e o).object.statusOrNew.bare =
      { o.statusOrNew.bare with failures := o.statusOrNew.bare.failures + 1 } := rfl

theorem bare_failed (log : LogBuffer) (e : ActionError) (o : HelmRelease) :
    (failed t r log e o).statusOrNew.bare =
      { (told t r log e o).object.statusOrNew.bare with
        installFailures := o.statusOrNew.bare.installFailures + 1 } := rfl

theorem bare_succeed (release : Release) (o : HelmRelease) :
    (succeed t release o).1.statusOrNew.bare = o.statusOrNew.bare :=
  (congrArg HelmReleaseStatus.bare (statusOrNew_succeed t release o) :)

end Exits

/-! ## Calls -/

/-- The history that a call with a verdict has left where it gives its notice. -/
def Verdict.history (v : Verdict) (rs : List Release) (before : History) : History :=
  match v with
  | .unstarted => before
  | .interrupted => []
  | .noEffect | .failed | .succeeded => lastWritten rs

/-- The count of all failures after a call with a verdict. -/
def Verdict.failures (v : Verdict) (before : Int64) : Int64 :=
  if v = .failed ∧ before ≠ Int64.maxValue then before + 1 else before

/-- What a call with a verdict has made of a status where it gives its notice, conditions aside. -/
def Verdict.noted (v : Verdict) (rs : List Release) (s : HelmReleaseStatus) : HelmReleaseStatus :=
  { s.bare with
    lastAttempted := if v = .unstarted then s.lastAttempted else some .install
    failures := v.failures s.failures
    history := v.history rs s.history }

/-- What a call with a verdict has made of a status once it comes back, conditions aside. -/
def Verdict.ended (v : Verdict) (rs : List Release) (s : HelmReleaseStatus) : HelmReleaseStatus :=
  { v.noted rs s with
    installFailures := if v = .failed then s.installFailures + 1 else s.installFailures }

namespace Attempt

variable (s : Settings) (d : Driver σ) (a : Attempt) (w : Standing σ)

protected theorem bare_merged : (a.merged s d w).statusOrNew.bare =
    { w.object.statusOrNew.bare with
      lastAttempted := some .install
      history := lastWritten (written (a.journal s d w)) } :=
  Install.bare_merged (a.request w.object.status) _

theorem bare_told_of_room (e : ActionError) (room : w.object.statusOrNew.failures ≠ Int64.maxValue) :
    (a.told s d w e).object.statusOrNew.bare =
      Verdict.noted .failed (written (a.journal s d w)) w.object.statusOrNew := by
  have count : Verdict.failures .failed w.object.statusOrNew.failures =
    w.object.statusOrNew.failures + 1 := if_pos ⟨rfl, room⟩
  rw [Attempt.told, bare_told, a.bare_merged, Verdict.noted, count]
  rfl

theorem bare_settled :
    (a.settled s d w).object.statusOrNew.bare =
      (if (a.settled s d w).outcome.Returned then
        (a.verdict s d w).ended (written (a.journal s d w)) w.object.statusOrNew
      else (a.verdict s d w).noted (written (a.journal s d w)) w.object.statusOrNew) ∧
    ∀ e ∈ (a.settled s d w).emissions, e.object.statusOrNew.bare =
      (a.verdict s d w).noted (written (a.journal s d w)) w.object.statusOrNew := by
  have merge := a.bare_merged s d w
  have exit := a.exits s d w
  generalize a.verdict s d w = v at exit ⊢
  generalize a.settled s d w = call at exit ⊢
  cases exit with
  | unstarted _ broken | interrupted _ broken =>
    refine ⟨?_, List.forall_mem_nil _⟩
    rw [if_neg broken]
    rfl
  | noEffect _ quiet =>
    rw [quiet]
    exact ⟨bare_merged (a.request w.object.status) [], List.forall_mem_nil _⟩
  | uncounted full =>
    have same : Verdict.failures .failed w.object.statusOrNew.failures =
      w.object.statusOrNew.failures := if_neg fun h => h.2 full
    have noted : (a.merged s d w).statusOrNew.bare =
        Verdict.noted .failed (written (a.journal s d w)) w.object.statusOrNew := by
      rw [merge, Verdict.noted, same]
      rfl
    exact ⟨noted, List.forall_mem_nil _⟩
  | unremedied e room _ =>
    have notice := a.bare_told_of_room s d w e room
    exact ⟨notice, List.forall_mem_singleton.2 notice⟩
  | failed e room _ =>
    have notice := a.bare_told_of_room s d w e room
    refine ⟨?_, List.forall_mem_singleton.2 notice⟩
    refine (bare_failed _ _ _ e (a.merged s d w)).trans ?_
    rw [merge]
    exact congrArg (fun s : HelmReleaseStatus =>
      { s with installFailures := w.object.statusOrNew.installFailures + 1 }) notice
  | succeeded release =>
    have same := (bare_succeed a.readings release _).trans merge
    exact ⟨same, List.forall_mem_singleton.2 same⟩

/-- **The status after a call**, conditions aside, whichever way it ends: as at its end if it comes
back, and as at its notice if it does not. -/
theorem bare_call : (a.call s d w).object.statusOrNew.bare =
    if (a.call s d w).outcome.Returned then
      (a.verdict s d w).ended (written (a.journal s d w)) w.object.statusOrNew
    else (a.verdict s d w).noted (written (a.journal s d w)) w.object.statusOrNew := by
  obtain ⟨ending, notices⟩ := a.bare_settled s d w
  rcases call_cases s d a w with through | ⟨e, he, dropped⟩
  · rw [through]
    exact ((a.settled s d w).object.bare_summarize _).trans ending
  · rw [dropped]
    exact (e.object.bare_summarize _).trans (notices e he)

/-- **The history after a call**, whichever way it ends. -/
theorem history_call : (a.call s d w).object.statusOrNew.history =
    (a.verdict s d w).history (written (a.journal s d w)) w.object.statusOrNew.history := by
  refine (congrArg HelmReleaseStatus.history (a.bare_call s d w)).trans ?_
  split <;> rfl

theorem failures_call : (a.call s d w).object.statusOrNew.failures =
    (a.verdict s d w).failures w.object.statusOrNew.failures := by
  refine (congrArg HelmReleaseStatus.failures (a.bare_call s d w)).trans ?_
  split <;> rfl

theorem installFailures_call : (a.call s d w).object.statusOrNew.installFailures =
    if a.verdict s d w = .failed ∧ (a.call s d w).outcome.Returned then
      w.object.statusOrNew.installFailures + 1
    else w.object.statusOrNew.installFailures := by
  refine (congrArg HelmReleaseStatus.installFailures (a.bare_call s d w)).trans ?_
  split
  · next returned => exact if_congr (and_iff_left returned).symm rfl rfl
  · next broken =>
    rw [if_neg fun h => broken h.2]
    rfl

variable {s d a w}

/-- **A failure comes back** if both counters have room for it, unless it is dropped at its notice. -/
theorem returned_call_of_failed (h : a.verdict s d w = .failed) :
    (a.call s d w).outcome.Returned ↔ a.dropped = false ∧
      w.object.statusOrNew.failures ≠ Int64.maxValue ∧
      w.object.statusOrNew.installFailures ≠ Int64.maxValue := by
  have call_eq : a.call s d w = if a.dropped then (a.reconciled s d w).dropAtNotice
      a.readings.summarized w.counters else a.reconciled s d w := rfl
  have outcome : (a.reconciled s d w).outcome = (a.settled s d w).outcome := rfl
  have emissions : (a.reconciled s d w).emissions = (a.settled s d w).emissions := rfl
  have exit := a.exits s d w
  rw [h] at exit
  generalize a.settled s d w = call at exit outcome emissions
  cases exit with
  | uncounted full =>
    rw [call_eq, Call.dropAtNotice_of_nil emissions, ite_self, outcome]
    exact iff_of_false id fun room => room.2.1 full
  | unremedied e _ full =>
    rw [call_eq, Call.dropAtNotice_of_cons emissions]
    refine iff_of_false ?_ fun room => room.2.2 full
    cases a.dropped with
    | true => exact id
    | false => exact (congrArg Outcome.Returned outcome).mp
  | failed e room roomInstall =>
    rw [call_eq, Call.dropAtNotice_of_cons emissions]
    cases a.dropped with
    | true => exact iff_of_false id fun room => absurd room.1 Bool.noConfusion
    | false => exact iff_of_true (outcome ▸ trivial) ⟨rfl, room, roomInstall⟩

end Attempt

end Install

end ReleaseControl
