import ReleaseControl.Proofs.Install.Readiness
import ReleaseControl.Proofs.Install.Verdict
import ReleaseControl.Proofs.Metrics.Count

/-!
# Accounting for installs

A call that comes back is booked once: in the status when it failed after a write, in the counters of
actions under its verdict, and in a notice unless it was handed back.

* `Balanced`: the books are in step with a list of verdicts.
* `balanced_call`: one call; `balanced_calls`: a sequence of calls.
-/

namespace ReleaseControl

variable {σ : Type}

/-- The verdict that is counted under a result. -/
def ActionResult.verdict : ActionResult → Install.Verdict
  | .success => .succeeded
  | .failure => .failed
  | .error => .noEffect

theorem InstallRemediation.retriesExhausted_iff (r : InstallRemediation) (s : HelmReleaseStatus) :
    r.retriesExhausted s = true ↔ 0 ≤ r.retries.toInt ∧ r.retries.toInt < s.installFailures.toInt := by
  simp [retriesExhausted, failureCount, Int64.le_iff_toInt_le, Int64.lt_iff_toInt_lt]

namespace Install

/-! ## Books in step with verdicts -/

/-- From `w` to `w'`, the books have grown by what the verdicts on the calls ask for. -/
structure Balanced (vs : List Verdict) (cs : List (Call σ)) (w w' : Standing σ) : Prop where
  started : vs.count .unstarted = 0
  completed : vs.count .interrupted = 0
  failures : w'.object.statusOrNew.failures.toInt = w.object.statusOrNew.failures.toInt + vs.count .failed
  installFailures :
    w'.object.statusOrNew.installFailures.toInt = w.object.statusOrNew.installFailures.toInt + vs.count .failed
  upgradeFailures : w'.object.statusOrNew.upgradeFailures = w.object.statusOrNew.upgradeFailures
  remediations : w'.counters.remediationFailureCount label =
    w.counters.remediationFailureCount label + vs.count .failed
  reconciliations : ∀ result, w'.counters.reconciliationCount label result =
    w.counters.reconciliationCount label result + vs.count result.verdict
  notices : (cs.flatMap Call.emissions).length + vs.count .noEffect = cs.length

/-- Below the largest counter there is room for the failures among the verdicts. -/
structure Room (vs : List Verdict) (w : Standing σ) : Prop where
  failures : w.object.statusOrNew.failures.toInt + vs.count .failed ≤ Int64.maxValue.toInt
  installFailures : w.object.statusOrNew.installFailures.toInt + vs.count .failed ≤ Int64.maxValue.toInt

theorem count_verdict_cons (x v : Verdict) (vs : List Verdict) :
    (v :: vs).count x = [v].count x + vs.count x := by
  rw [← List.singleton_append, List.count_append]

theorem balanced_nil (w : Standing σ) : Balanced [] [] w w where
  started := rfl
  completed := rfl
  failures := (Int.add_zero _).symm
  installFailures := (Int.add_zero _).symm
  upgradeFailures := rfl
  remediations := rfl
  reconciliations := fun _ => rfl
  notices := rfl

theorem Balanced.append {vs vs' : List Verdict} {cs cs' : List (Call σ)} {w w' w'' : Standing σ}
    (h : Balanced vs cs w w') (k : Balanced vs' cs' w' w'') :
    Balanced (vs ++ vs') (cs ++ cs') w w'' where
  started := by rw [List.count_append, h.started, k.started]
  completed := by rw [List.count_append, h.completed, k.completed]
  failures := by
    rw [k.failures, h.failures, List.count_append]
    omega
  installFailures := by
    rw [k.installFailures, h.installFailures, List.count_append]
    omega
  upgradeFailures := k.upgradeFailures.trans h.upgradeFailures
  remediations := by
    rw [k.remediations, h.remediations, List.count_append]
    omega
  reconciliations := fun result => by
    rw [k.reconciliations, h.reconciliations, List.count_append]
    omega
  notices := by
    have hn := h.notices
    have kn := k.notices
    rw [List.flatMap_append, List.length_append, List.count_append, List.length_append]
    omega

theorem Room.head {v : Verdict} {vs : List Verdict} {w : Standing σ} (h : Room (v :: vs) w) :
    Room [v] w := by
  obtain ⟨failures, installFailures⟩ := h
  rw [count_verdict_cons] at failures installFailures
  exact ⟨by omega, by omega⟩

theorem Room.tail {v : Verdict} {vs : List Verdict} {cs : List (Call σ)} {w w' : Standing σ}
    (h : Room (v :: vs) w) (k : Balanced [v] cs w w') : Room vs w' := by
  obtain ⟨failures, installFailures⟩ := h
  rw [count_verdict_cons] at failures installFailures
  have booked := k.failures
  have bookedInstall := k.installFailures
  exact ⟨by omega, by omega⟩

/-! ## One call -/

section Call

variable {s : Settings} {d : Driver σ} {a : Attempt} {w : Standing σ}

theorem reconciliationCount_verdict (c : Counters) (result other : ActionResult) :
    (c.countReconciliation label result).reconciliationCount label other =
      c.reconciliationCount label other + [result.verdict].count other.verdict := by
  rw [c.reconciliationCount_countReconciliation]
  cases result <;> cases other <;> rfl

theorem Balanced.summarize {v : Verdict} {call : Call σ} (now : Instant)
    (h : Balanced [v] [call] w call.standing) :
    Balanced [v] [{ call with object := call.object.summarize now }] w
      ({ call with object := call.object.summarize now } : Call σ).standing := by
  have status := call.object.statusOrNew_summarize now
  exact {
    started := h.started
    completed := h.completed
    failures := (congrArg (·.failures.toInt) status).trans h.failures
    installFailures := (congrArg (·.installFailures.toInt) status).trans h.installFailures
    upgradeFailures := (congrArg (·.upgradeFailures) status).trans h.upgradeFailures
    remediations := h.remediations
    reconciliations := h.reconciliations
    notices := h.notices }

theorem balanced_settled (returned : (a.settled s d w).outcome.Returned)
    (room : Room [a.verdict s d w] w) :
    Balanced [a.verdict s d w] [a.settled s d w] w (a.settled s d w).standing := by
  have exit := a.exits s d w
  generalize a.verdict s d w = v at exit room ⊢
  generalize a.settled s d w = call at exit returned ⊢
  cases exit with
  | unstarted _ broken | interrupted _ broken => exact absurd returned broken
  | uncounted _ | unremedied _ _ _ => exact returned.elim
  | noEffect e _ =>
    have status := statusOrNew_merged (a.request w.object.status) []
    exact {
      started := rfl
      completed := rfl
      failures := (congrArg (·.failures.toInt) status).trans (Int.add_zero _).symm
      installFailures := (congrArg (·.installFailures.toInt) status).trans (Int.add_zero _).symm
      upgradeFailures := congrArg (·.upgradeFailures) status
      remediations := rfl
      reconciliations := reconciliationCount_verdict w.counters .error
      notices := rfl }
  | failed e below belowInstall =>
    have status := statusOrNew_failed a.readings (a.request w.object.status) (a.trace s d w).log e
      (a.merged s d w)
    rw [Attempt.merged, statusOrNew_merged] at status
    exact {
      started := rfl
      completed := rfl
      failures := (congrArg (·.failures.toInt) status).trans (toInt_add_one below)
      installFailures := (congrArg (·.installFailures.toInt) status).trans (toInt_add_one belowInstall)
      upgradeFailures := congrArg (·.upgradeFailures) status
      remediations := w.counters.remediationFailureCount_countRemediationFailure label
      reconciliations := reconciliationCount_verdict (w.counters.countRemediationFailure label) .failure
      notices := rfl }
  | succeeded release =>
    have status := statusOrNew_succeed a.readings release (a.merged s d w)
    rw [Attempt.merged, statusOrNew_merged] at status
    exact {
      started := rfl
      completed := rfl
      failures := (congrArg (·.failures.toInt) status).trans (Int.add_zero _).symm
      installFailures := (congrArg (·.installFailures.toInt) status).trans (Int.add_zero _).symm
      upgradeFailures := congrArg (·.upgradeFailures) status
      remediations := rfl
      reconciliations := reconciliationCount_verdict w.counters .success
      notices := rfl }

/-- **The step**: one call that comes back is booked under its verdict. -/
theorem balanced_call (returned : (a.call s d w).outcome.Returned)
    (room : Room [a.verdict s d w] w) :
    Balanced [a.verdict s d w] [a.call s d w] w (a.call s d w).standing := by
  have through := Attempt.call_eq_of_returned returned
  rw [through] at returned ⊢
  exact (balanced_settled returned room).summarize a.readings.summarized

end Call

/-! ## Sequences of calls -/

section Sequence

variable (s : Settings) (d : Driver σ) (attempts : List Attempt)

theorem count_verdicts (vs : List Verdict) : vs.count .unstarted + vs.count .interrupted +
    vs.count .failed + vs.count .noEffect + vs.count .succeeded = vs.length := by
  induction vs with
  | nil => rfl
  | cons v vs ih => cases v <;> simp <;> omega

theorem length_verdicts (w : Standing σ) :
    (verdicts s d attempts w).length = (calls s d attempts w).length := by
  induction attempts generalizing w with
  | nil => rfl
  | cons a rest ih => exact congrArg (· + 1) (ih _)

variable {s d attempts} {w : Standing σ}

/-- **The run**: calls that come back are booked under their verdicts. -/
theorem balanced_calls (returned : ∀ call ∈ calls s d attempts w, call.outcome.Returned)
    (room : Room (verdicts s d attempts w) w) :
    Balanced (verdicts s d attempts w) (calls s d attempts w) w (after s d attempts w) := by
  induction attempts generalizing w with
  | nil => exact balanced_nil w
  | cons a rest ih =>
    have first : (a.call s d w).outcome.Returned := returned _ List.mem_cons_self
    have booked := balanced_call first room.head
    -- what the first call books is taken off the room that is left for the others
    have others := ih (fun call hc => returned call (List.mem_cons_of_mem _ hc))
      (room.tail booked)
    exact booked.append others

end Sequence

/-- **Accounting for failures.** Over any sequence of calls that come back, the books grow by what the
verdicts on the calls ask for; every call is counted under one result; and the retries of a
remediation are used up when the failures from before and those of the calls together exceed them. -/
theorem failure_accounting (s : Settings) (d : Driver σ) (attempts : List Attempt) (w : Standing σ)
    (returned : ∀ call ∈ calls s d attempts w, call.outcome.Returned)
    (room : Room (verdicts s d attempts w) w) :
    Balanced (verdicts s d attempts w) (calls s d attempts w) w (after s d attempts w) ∧
    (after s d attempts w).counters.reconciliationCount label .failure +
        (after s d attempts w).counters.reconciliationCount label .error +
        (after s d attempts w).counters.reconciliationCount label .success =
      w.counters.reconciliationCount label .failure + w.counters.reconciliationCount label .error +
        w.counters.reconciliationCount label .success + (calls s d attempts w).length ∧
    ∀ r : InstallRemediation, r.retriesExhausted (after s d attempts w).object.statusOrNew = true ↔
      0 ≤ r.retries.toInt ∧ r.retries.toInt <
        w.object.statusOrNew.installFailures.toInt + (verdicts s d attempts w).count .failed := by
  have books := balanced_calls returned room
  refine ⟨books, ?_, fun r => ?_⟩
  · have total := count_verdicts (verdicts s d attempts w)
    rw [length_verdicts, books.started, books.completed] at total
    have failures := books.reconciliations .failure
    have errors := books.reconciliations .error
    have successes := books.reconciliations .success
    simp only [ActionResult.verdict] at failures errors successes
    omega
  · rw [r.retriesExhausted_iff, books.installFailures]

/-! ### Retries that are used up

The object failed to install once before, and one retry is allowed. The first call fails without a
write, the next one fails after a write, and the last one, at a new generation, succeeds. -/

namespace Sample

def retried : List Attempt :=
  [attempt fun _ => .storage (.delete "absent") fun _ => .finish (.error timeout), attempt engine,
    { attempt fun _ => .finish (.ok pending) with
      metadata := { request.object.metadata with generation := some 4 } }]

end Sample

theorem failure_accounting_retried :
    verdicts {} Records.driver Sample.retried Sample.tested = [.noEffect, .failed, .succeeded] ∧
      (∀ call ∈ calls {} Records.driver Sample.retried Sample.tested, call.outcome.Returned) ∧
      Room [.noEffect, .failed, .succeeded] Sample.tested ∧
      Balanced [.noEffect, .failed, .succeeded] (calls {} Records.driver Sample.retried Sample.tested)
        Sample.tested (after {} Records.driver Sample.retried Sample.tested) ∧
      InstallRemediation.retriesExhausted { retries := 1 }
        (after {} Records.driver Sample.retried Sample.tested).object.statusOrNew = true := by
  have outcomes : (calls {} Records.driver Sample.retried Sample.tested).map Call.outcome =
      [.error Sample.timeout, .ok, .ok] := rfl
  have returned : ∀ call ∈ calls {} Records.driver Sample.retried Sample.tested,
      call.outcome.Returned := by
    intro call hc
    have ho := List.mem_map_of_mem (f := Call.outcome) hc
    rw [outcomes] at ho
    simp only [List.mem_cons, List.not_mem_nil, or_false] at ho
    rcases ho with ho | ho | ho <;> rw [ho] <;> trivial
  have room : Room [.noEffect, .failed, .succeeded] Sample.tested := ⟨by decide, by decide⟩
  obtain ⟨books, -, exhausted⟩ := failure_accounting {} Records.driver Sample.retried Sample.tested
    returned room
  exact ⟨rfl, returned, room, books,
    (exhausted { retries := 1 }).2 ⟨by decide, by decide⟩⟩

end Install

end ReleaseControl
