import ReleaseControl.Proofs.Install.Accounting
import ReleaseControl.Proofs.Install.Run
import ReleaseControl.Proofs.Install.Status
import ReleaseControl.Proofs.Object.RoundTrip

/-!
# Counters of failures never go back

* `HelmReleaseStatus.CountsOn`: neither counter of failures has gone back.
* `countsOn_call`, `countsOn_apply`, `countsOn_perform`: calls, changes and the steps of a run.
* **`failures_count_up`**: when the counters go up, and that retries stay used up.
* `failures_stand_still`: failures that are not counted.
-/

namespace ReleaseControl

variable {σ : Type}

/-! ## Counters -/

/-- Neither counter of failures has gone back. -/
structure HelmReleaseStatus.CountsOn (before after : HelmReleaseStatus) : Prop where
  failures : before.failures ≤ after.failures
  installFailures : before.installFailures ≤ after.installFailures

namespace HelmReleaseStatus.CountsOn

protected theorem refl (s : HelmReleaseStatus) : s.CountsOn s := ⟨Int64.le_refl _, Int64.le_refl _⟩

protected theorem trans {s s' s'' : HelmReleaseStatus} (h : s.CountsOn s') (k : s'.CountsOn s'') :
    s.CountsOn s'' :=
  ⟨Int64.le_trans h.failures k.failures, Int64.le_trans h.installFailures k.installFailures⟩

theorem retriesExhausted {s s' : HelmReleaseStatus} (h : s.CountsOn s') {r : InstallRemediation}
    (used : r.retriesExhausted s = true) : r.retriesExhausted s' = true := by
  obtain ⟨limited, above⟩ := (r.retriesExhausted_iff s).1 used
  have le := Int64.le_iff_toInt_le.1 h.installFailures
  exact (r.retriesExhausted_iff s').2 ⟨limited, by omega⟩

end HelmReleaseStatus.CountsOn

theorem HelmReleaseStatus.countsOn_countFailure? {s s' : HelmReleaseStatus}
    (h : s.countFailure? = some s') : s.CountsOn s' := by
  obtain ⟨n, more, rfl⟩ := Option.map_eq_some_iff.1 h
  exact ⟨Int64.le_of_lt (lt_of_countUp? more), Int64.le_refl _⟩

namespace InstallRemediation

variable (r : InstallRemediation) {s s' : HelmReleaseStatus}

theorem countsOn_countFailure? (h : r.countFailure? s = some s') : s.CountsOn s' := by
  obtain ⟨n, more, rfl⟩ := Option.map_eq_some_iff.1 h
  exact ⟨Int64.le_refl _, Int64.le_of_lt (lt_of_countUp? more)⟩

theorem lt_countFailure? (h : r.countFailure? s = some s') : s.installFailures < s'.installFailures := by
  obtain ⟨n, more, rfl⟩ := Option.map_eq_some_iff.1 h
  exact lt_of_countUp? more

theorem countFailure?_eq_none_iff :
    r.countFailure? s = none ↔ s.installFailures = Int64.maxValue := by
  rw [countFailure?, Option.map_eq_none_iff, countUp?_eq_none_iff]

end InstallRemediation

theorem HelmRelease.countsOn_apply (o : HelmRelease) (c : Change) :
    o.statusOrNew.CountsOn (c.apply o).statusOrNew := by
  have counted (f : HelmReleaseStatus → Option HelmReleaseStatus)
      (up : ∀ s s', f s = some s' → s.CountsOn s') :
      o.statusOrNew.CountsOn ((o.modifyStatus? f).getD o).statusOrNew := by
    rcases o.getD_modifyStatus? f with same | ⟨s, some_eq, more⟩
    · rw [same]
      exact .refl _
    · rw [more]
      exact up _ _ some_eq
  cases c with
  | countFailure => exact counted _ fun _ _ => HelmReleaseStatus.countsOn_countFailure?
  | countInstallFailure r => exact counted _ fun _ _ => r.countsOn_countFailure?
  | summarize now =>
    rw [Change.apply, o.statusOrNew_summarize now]
    exact ⟨Int64.le_refl _, Int64.le_refl _⟩
  | _ => exact ⟨Int64.le_refl _, Int64.le_refl _⟩

namespace Install

/-! ## Calls -/

namespace Attempt

variable (s : Settings) (d : Driver σ) (a : Attempt) (w : Standing σ)

theorem room_of_returned
    (h : a.verdict s d w = .failed ∧ (a.call s d w).outcome.Returned) :
    w.object.statusOrNew.installFailures ≠ Int64.maxValue := ((returned_call_of_failed h.1).1 h.2).2.2

/-- **All failures count up** with one that there is a number for. -/
theorem failures_lt_call : w.object.statusOrNew.failures < (a.call s d w).object.statusOrNew.failures ↔
    a.verdict s d w = .failed ∧ w.object.statusOrNew.failures ≠ Int64.maxValue := by
  rw [a.failures_call, Verdict.failures]
  exact lt_count_iff And.right

/-- **Failures towards remediation count up** with one whose call comes back. -/
theorem installFailures_lt_call :
    w.object.statusOrNew.installFailures < (a.call s d w).object.statusOrNew.installFailures ↔
      a.verdict s d w = .failed ∧ (a.call s d w).outcome.Returned := by
  rw [a.installFailures_call]
  exact lt_count_iff (a.room_of_returned s d w)

/-- **The step**: whatever becomes of it, a call takes no failure back. -/
theorem countsOn_call : w.object.statusOrNew.CountsOn (a.call s d w).object.statusOrNew where
  failures := by
    rw [a.failures_call, Verdict.failures]
    exact le_count And.right
  installFailures := by
    rw [a.installFailures_call]
    exact le_count (a.room_of_returned s d w)

end Attempt

variable {s : Settings} {d : Driver σ}

theorem countsOn_perform (step : Step) (w : Standing σ) :
    w.object.statusOrNew.CountsOn (step.perform s d w).after.object.statusOrNew := by
  cases step with
  | change c => exact w.object.countsOn_apply c
  | install a => exact (a.attempt w.object).countsOn_call s d w

/-- **The run**: through installs and changes on an object, no failure is taken back. -/
theorem countsOn_run (steps : List Step) (w : Standing σ) : ∀ done ∈ run s d steps w,
    w.object.statusOrNew.CountsOn done.after.object.statusOrNew := by
  refine forall_mem_trail (P := fun v => w.object.statusOrNew.CountsOn
    v.object.statusOrNew) (fun step v hv => ?_) steps (.refl _)
  exact and_self_iff.2 (hv.trans (countsOn_perform step v))

theorem countsOn_calls (attempts : List Attempt) (w : Standing σ) : ∀ call ∈ calls s d attempts w,
    w.object.statusOrNew.CountsOn call.object.statusOrNew := by
  refine forall_mem_trail (P := fun v => w.object.statusOrNew.CountsOn v.object.statusOrNew)
    (fun a v hv => ?_) attempts (.refl _)
  exact and_self_iff.2 (hv.trans (a.countsOn_call s d v))

/-- **Counters of failures never go back.** An install that fails after a write makes the counter of all
failures larger unless that is at the largest number, and the one towards remediation exactly if its call
comes back; it does so if both have room, unless it is dropped at its notice. A single count makes its
counter larger, or panics at the largest number. Through any installs, single counts and other changes on
an object, and through installs of whatever is declared by then, no counter is ever below what it was, so
that retries which are used up stay so. -/
theorem failures_count_up (s : Settings) (d : Driver σ) :
    (∀ (a : Attempt) (w : Standing σ), a.verdict s d w = .failed →
      let call := a.call s d w
      let before := w.object.statusOrNew
      let after := call.object.statusOrNew
      (before.failures < after.failures ↔ before.failures ≠ Int64.maxValue) ∧
      (before.installFailures < after.installFailures ↔ call.outcome.Returned) ∧
      (call.outcome.Returned ↔ a.dropped = false ∧ before.failures ≠ Int64.maxValue ∧
        before.installFailures ≠ Int64.maxValue)) ∧
    (∀ (r : InstallRemediation) (before : HelmReleaseStatus),
      (∀ after, r.countFailure? before = some after →
        before.installFailures < after.installFailures) ∧
      (r.countFailure? before = none ↔ before.installFailures = Int64.maxValue)) ∧
    (∀ (steps : List Step) (w : Standing σ), ∀ done ∈ run s d steps w,
      w.object.statusOrNew.CountsOn done.after.object.statusOrNew ∧
      ∀ r : InstallRemediation, r.retriesExhausted w.object.statusOrNew = true →
        r.retriesExhausted done.after.object.statusOrNew = true) ∧
    ∀ (attempts : List Attempt) (w : Standing σ), ∀ call ∈ calls s d attempts w,
      w.object.statusOrNew.CountsOn call.object.statusOrNew ∧
      ∀ r : InstallRemediation, r.retriesExhausted w.object.statusOrNew = true →
        r.retriesExhausted call.object.statusOrNew = true := by
  refine ⟨fun a w failed => ⟨?_, ?_, Attempt.returned_call_of_failed failed⟩,
    fun r before => ⟨fun _ => r.lt_countFailure?, r.countFailure?_eq_none_iff⟩,
    fun steps w done hd => ?_, fun attempts w call hc => ?_⟩
  · exact (a.failures_lt_call s d w).trans (and_iff_right failed)
  · exact (a.installFailures_lt_call s d w).trans (and_iff_right failed)
  · have on := countsOn_run steps w done hd
    exact ⟨on, fun _ => on.retriesExhausted⟩
  · have on := countsOn_calls attempts w call hc
    exact ⟨on, fun _ => on.retriesExhausted⟩

/-! ### Counters near their end

With both counters one below the largest number, a call fails after a write and one more failure is
counted by itself: the first takes both counters to their end, the second panics. -/

namespace Sample

/-- An object with both counters of failures. -/
def counting (failures installFailures : Int64) : Standing Records :=
  standing { failures := failures, installFailures := installFailures }

/-- Gives up after three retries. -/
def limited : InstallRemediation := { retries := 3 }

end Sample

theorem failures_count_up_once :
    let a := Sample.attempt Sample.engine
    let w := Sample.counting 9223372036854775806 9223372036854775806
    let steps := [Sample.install Sample.engine, .change (.countInstallFailure Sample.limited)]
    a.verdict {} Records.driver w = .failed ∧
      w.object.statusOrNew.failures < (a.call {} Records.driver w).object.statusOrNew.failures ∧
      w.object.statusOrNew.installFailures <
        (a.call {} Records.driver w).object.statusOrNew.installFailures ∧
      Sample.limited.countFailure? (a.call {} Records.driver w).object.statusOrNew = none ∧
      Sample.limited.retriesExhausted w.object.statusOrNew = true ∧
      ∀ done ∈ run {} Records.driver steps w,
        Sample.limited.retriesExhausted done.after.object.statusOrNew = true := by
  intro a w steps
  have failed : a.verdict {} Records.driver w = .failed := rfl
  have used : Sample.limited.retriesExhausted w.object.statusOrNew = true := by decide
  obtain ⟨installs, counts, runs, -⟩ := failures_count_up {} Records.driver
  obtain ⟨failures, installFailures, returned⟩ := installs a w failed
  have room : w.object.statusOrNew.failures ≠ Int64.maxValue := by decide
  have back := returned.2 ⟨rfl, room, by decide⟩
  have last := (a.installFailures_call {} Records.driver w).trans (if_pos ⟨failed, back⟩)
  exact ⟨failed, failures.2 room, installFailures.2 back, (counts Sample.limited _).2.2 last, used,
    fun done hd => (runs steps w done hd).2 Sample.limited used⟩

/-- At the largest number, which a status may be read with, neither counter counts: a call that fails
after a write panics. With the counter of all failures there, the failure is neither marked nor told, and
does not count towards remediation either; with only the other one there, it is not counted towards
remediation. A single count panics too. -/
theorem failures_stand_still :
    let a := Sample.attempt Sample.engine
    let full := Sample.counting 9223372036854775807 1
    let fullInstall := Sample.counting 1 9223372036854775807
    let call := a.call {} Records.driver full
    let callInstall := a.call {} Records.driver fullInstall
    HelmReleaseStatus.codec.decode (HelmReleaseStatus.codec.encode full.object.statusOrNew) =
        .ok full.object.statusOrNew ∧
      (a.verdict {} Records.driver full = .failed ∧ call.outcome = .panicked overflowMessage ∧
        call.emissions = [] ∧ call.object.conditions.get? .released = none ∧
        call.object.statusOrNew.failures = full.object.statusOrNew.failures ∧
        call.object.statusOrNew.installFailures = full.object.statusOrNew.installFailures) ∧
      (a.verdict {} Records.driver fullInstall = .failed ∧
        callInstall.outcome = .panicked overflowMessage ∧
        callInstall.object.statusOrNew.installFailures =
          fullInstall.object.statusOrNew.installFailures) ∧
      Sample.limited.countFailure? fullInstall.object.statusOrNew = none :=
  ⟨HelmReleaseStatus.codec_lawful _, ⟨rfl, rfl, rfl, rfl, rfl, rfl⟩, ⟨rfl, rfl, rfl⟩, rfl⟩

end Install

end ReleaseControl
