import ReleaseControl.Proofs.Install.Sequence

/-!
# Verdicts on installs

* `Verdict`, `Attempt.verdict`: what became of an install, as its engine has it.
* `Exits`, **`exits`**: the record of a call, by its verdict and the counters that it finds.
* `verdicts`: the verdicts on a sequence of calls.
-/

namespace ReleaseControl

instance : DecidablePred Entry.Wrote := fun e => inferInstanceAs (Decidable (e.record? ≠ none))

namespace Install

variable {σ : Type}

/-- What became of an install. -/
inductive Verdict where
  /-- There was no room for its log. -/
  | unstarted
  /-- The engine came to no result. -/
  | interrupted
  /-- It failed or was cancelled, and nothing was written. -/
  | noEffect
  /-- It failed or was cancelled after a write. -/
  | failed
  | succeeded
deriving DecidableEq

namespace Attempt

variable (s : Settings) (d : Driver σ) (a : Attempt) (w : Standing σ)

def journal : List Entry :=
  Install.journal s a.engine d a.readings a.token (a.request w.object.status) w.state

def verdict : Verdict :=
  match (a.trace s d w).result? with
  | none => if (a.trace s d w).started then .interrupted else .unstarted
  | some (.ok _) => .succeeded
  | some (.error _) => if ∃ x ∈ a.journal s d w, x.Wrote then .failed else .noEffect

/-- The object with what was written in its history. -/
def merged : HelmRelease := Install.merged (a.request w.object.status) (written (a.journal s d w))

def told (e : ActionError) : Emission :=
  Install.told a.readings (a.request w.object.status) (a.trace s d w).log e (a.merged s d w)

/-- The object at the end of a call that counts a failure. -/
def failed (e : ActionError) : HelmRelease :=
  Install.failed a.readings (a.request w.object.status) (a.trace s d w).log e (a.merged s d w)

theorem reports_trace : (a.trace s d w).reports = written (a.journal s d w) :=
  trace_reports s a.engine d a.readings a.token (a.request w.object.status) w.state

theorem started_eq : (a.trace s d w).started = hasRoom s :=
  started_trace s a.engine d a.readings a.token (a.request w.object.status) w.state

variable {s d a w}

theorem verdict_of_none (h : (a.trace s d w).result? = none) : a.verdict s d w =
    if (a.trace s d w).started then .interrupted else .unstarted := by
  rw [verdict, h]

theorem room_of_ne (h : a.verdict s d w ≠ .unstarted) : hasRoom s = true := by
  by_contra full
  refine h ?_
  unfold verdict trace
  rw [trace_of_no_room _ _ _ _ _ _ full]
  rfl

theorem verdict_of_ok {release : Release} (h : (a.trace s d w).result? = some (.ok release)) :
    a.verdict s d w = .succeeded := by
  rw [verdict, h]

theorem verdict_of_error {e : ActionError} (h : (a.trace s d w).result? = some (.error e))
    (hw : written (a.journal s d w) ≠ []) : a.verdict s d w = .failed := by
  simp only [verdict, h]
  exact if_pos (written_ne_nil.1 hw)

theorem verdict_of_error_nil {e : ActionError} (h : (a.trace s d w).result? = some (.error e))
    (hw : written (a.journal s d w) = []) : a.verdict s d w = .noEffect := by
  simp only [verdict, h]
  refine if_neg fun ⟨x, hx, wrote⟩ => ?_
  exact written_eq_nil.1 hw x hx wrote

variable (s d a w)

/-- The exits of a call, each under its verdict. -/
inductive Exits : Verdict → Call σ → Prop
  | unstarted {outcome : Outcome} (unstarted : (a.trace s d w).started = false)
      (broken : ¬ outcome.Returned) : Exits .unstarted
        ⟨outcome, (a.request w.object.status).object, [], w.counters, (a.trace s d w).state⟩
  | interrupted {outcome : Outcome} (started : (a.trace s d w).started = true)
      (broken : ¬ outcome.Returned) : Exits .interrupted
        ⟨outcome, start (a.request w.object.status).object, [], w.counters, (a.trace s d w).state⟩
  | noEffect (e : ActionError) (quiet : written (a.journal s d w) = []) : Exits .noEffect
      ⟨.error e, Install.merged (a.request w.object.status) [], [],
        w.counters.countReconciliation label .error, (a.trace s d w).state⟩
  | uncounted (full : w.object.statusOrNew.failures = Int64.maxValue) : Exits .failed
      ⟨.panicked overflowMessage, a.merged s d w, [], w.counters, (a.trace s d w).state⟩
  | unremedied (e : ActionError) (room : w.object.statusOrNew.failures ≠ Int64.maxValue)
      (full : w.object.statusOrNew.installFailures = Int64.maxValue) : Exits .failed
      ⟨.panicked overflowMessage, (a.told s d w e).object, [a.told s d w e], w.counters,
        (a.trace s d w).state⟩
  | failed (e : ActionError) (room : w.object.statusOrNew.failures ≠ Int64.maxValue)
      (roomInstall : w.object.statusOrNew.installFailures ≠ Int64.maxValue) : Exits .failed
      ⟨.ok, a.failed s d w e, [a.told s d w e],
        (w.counters.countRemediationFailure label).countReconciliation label .failure,
        (a.trace s d w).state⟩
  | succeeded (release : Release) : Exits .succeeded
      ⟨.ok, (succeed a.readings release (a.merged s d w)).1,
        [(succeed a.readings release (a.merged s d w)).2],
        w.counters.countReconciliation label .success, (a.trace s d w).state⟩

/-- **The verdict decides the exit**, together with the counters that the call finds. -/
theorem exits : Exits s d a w (a.verdict s d w) (a.settled s d w) := by
  -- the exits go by what was reported, the verdict by what was written, and both are the same
  have reports := reports_trace s d a w
  have merges : Install.merged (a.request w.object.status) (a.trace s d w).reports = a.merged s d w := by
    rw [reports, merged]
  refine settle_cases a.readings (a.request w.object.status) w.counters
    (P := Exits s d a w (a.verdict s d w)) (a.trace s d w) (fun h => ?_) (fun e h hw => ?_)
    (fun e h hw full => ?_) (fun e h hw room full => ?_) (fun e h hw room roomInstall => ?_)
    fun release h => ?_
  · have broken := interruption_not_returned h
    rw [verdict_of_none h, Install.interrupted]
    split
    · next started => exact .interrupted started broken
    · next unstarted => exact .unstarted (by simpa using unstarted) broken
  · rw [hw] at reports
    rw [verdict_of_error_nil h reports.symm, hw]
    exact .noEffect e reports.symm
  · rw [verdict_of_error h (reports ▸ hw), merges]
    exact .uncounted full
  · rw [verdict_of_error h (reports ▸ hw), merges]
    exact .unremedied e room full
  · rw [verdict_of_error h (reports ▸ hw), merges]
    exact .failed e room roomInstall
  · rw [verdict_of_ok h, merges]
    exact .succeeded release

variable {s d a w}

/-! ## The record of a failure -/

theorem settled_of_noEffect (h : a.verdict s d w = .noEffect) : written (a.journal s d w) = [] ∧
    ∃ e, a.settled s d w = ⟨.error e, Install.merged (a.request w.object.status) [], [],
      w.counters.countReconciliation label .error, (a.trace s d w).state⟩ := by
  have exit := exits s d a w
  rw [h] at exit
  generalize a.settled s d w = call at exit ⊢
  cases exit with
  | noEffect e quiet => exact ⟨quiet, e, rfl⟩

/-- **A failure that cannot be counted** panics, and nothing is told. -/
theorem settled_of_uncounted (h : a.verdict s d w = .failed)
    (full : w.object.statusOrNew.failures = Int64.maxValue) : a.settled s d w =
      ⟨.panicked overflowMessage, a.merged s d w, [], w.counters, (a.trace s d w).state⟩ := by
  have exit := exits s d a w
  rw [h] at exit
  generalize a.settled s d w = call at exit ⊢
  cases exit with
  | uncounted _ => rfl
  | unremedied _ room _ | failed _ room _ => exact absurd full room

/-- **A failure that can be counted** is told once; the object is as the notice shows it, or counts the
failure towards remediation as well. -/
theorem settled_of_counted (h : a.verdict s d w = .failed)
    (room : w.object.statusOrNew.failures ≠ Int64.maxValue) : ∃ e,
      (a.settled s d w).emissions = [a.told s d w e] ∧
        ((a.settled s d w).object = (a.told s d w e).object ∨
          (a.settled s d w).object = a.failed s d w e) := by
  have exit := exits s d a w
  rw [h] at exit
  generalize a.settled s d w = call at exit ⊢
  cases exit with
  | uncounted full => exact absurd full room
  | unremedied e _ _ => exact ⟨e, rfl, .inl rfl⟩
  | failed e _ _ => exact ⟨e, rfl, .inr rfl⟩

/-- A call that tells nothing has no notice to be dropped at. -/
theorem call_eq_of_silent (h : (a.settled s d w).emissions = []) :
    a.call s d w = a.reconciled s d w := by
  rcases call_cases s d a w with through | ⟨e, he, -⟩
  · exact through
  · rw [h] at he
    exact absurd he List.not_mem_nil

end Attempt

def verdicts (s : Settings) (d : Driver σ) : List Attempt → Standing σ → List Verdict
  | [], _ => []
  | a :: rest, w => a.verdict s d w :: verdicts s d rest (a.call s d w).standing

end Install

end ReleaseControl
