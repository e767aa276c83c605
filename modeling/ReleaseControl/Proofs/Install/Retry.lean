import Mathlib.Data.List.Forall2
import ReleaseControl.Proofs.Install.Readiness
import ReleaseControl.Proofs.Install.Verdict
import ReleaseControl.Proofs.Object.Early
import ReleaseControl.Proofs.Storage.Steady

/-!
# Installs after failures without effect

Failures without a write leave readiness computed early, a cleared history and the note of an install,
and the next call does all of that itself.

* `Retraces`: two calls that differ only in early readiness; `retraces_settle`.
* `Repeats`: two calls with the same result, notices, storage and status.
* `Untouched`: what failures without effect leave behind; `Untouched.call` is the step.
-/

namespace ReleaseControl

theorem EventReporter.event_congr {o p : HelmRelease} (h : o.metadata = p.metadata)
    (reporter : EventReporter) (now : Instant) (n : Notice) :
    reporter.event now o n = reporter.event now p n := by
  simp only [event, reference, eventMetadata, h]

namespace Install

variable {σ : Type}

/-! ## Marking the outcome in both objects -/

section Marking

variable {o p : HelmRelease} {r q : Request} (t : Readings)

theorem failureMessage_congr (h : o.SameDeclaration p) (chart : Chart) (e : ActionError) :
    failureMessage o chart e = failureMessage p chart e := by
  unfold failureMessage
  rw [h.releaseNamespace_eq, h.releaseName_eq]

theorem ahead_counted (h : o.Ahead p) : (counted o).Ahead (counted p) :=
  h.modifyStatus fun _ _ => rfl

theorem ahead_told (h : o.Ahead p) (hc : r.chart = q.chart) (log : LogBuffer) (e : ActionError) :
    (told t r log e o).object.Ahead (told t q log e p).object := by
  have message := failureMessage_congr (ahead_counted h).declared q.chart e
  have unready : ConditionType.released ≠ .ready := by decide
  have marked := (ahead_counted h).mark t.released unready .false failedReason
    (failureMessage (counted p) q.chart e)
  simp only [told, fail, hc, message]
  exact marked

theorem notice_told_congr (h : o.Ahead p) (hc : r.chart = q.chart) (hv : r.values = q.values)
    (log : LogBuffer) (e : ActionError) : (told t r log e o).notice = (told t q log e p).notice := by
  have message := failureMessage_congr (ahead_counted h).declared q.chart e
  simp only [told, fail, hc, hv, message]

theorem ahead_failed (h : o.Ahead p) (hc : r.chart = q.chart) (log : LogBuffer) (e : ActionError) :
    (failed t r log e o).Ahead (failed t q log e p) :=
  (ahead_told t h hc log e).modifyStatus fun _ _ => rfl

theorem current_congr (h : o.Ahead p) (release : Release) : current release o = current release p := by
  rw [current, current, h.history_eq]

theorem ahead_succeed (h : o.Ahead p) (release : Release) :
    (succeed t release o).1.Ahead (succeed t release p).1 := by
  have cur := current_congr h release
  have unready : ConditionType.released ≠ .ready := by decide
  have marked := h.mark t.released unready .true succeededReason (successMessage (current release p))
  have same : Awaits release o ↔ Awaits release p := awaits_iff h.declared h.history_eq
  by_cases hw : Awaits release p
  · rw [succeed_fst_of_awaits t hw, succeed_fst_of_awaits t (same.2 hw), cur]
    exact marked.mark t.awaited (by decide) _ _ _
  · rw [succeed_fst_of_not_awaits t hw, succeed_fst_of_not_awaits t (mt same.1 hw), cur]
    exact marked

theorem notice_succeed_congr (h : o.Ahead p) (release : Release) :
    (succeed t release o).2.notice = (succeed t release p).2.notice := by
  simp only [succeed, current_congr h release]

end Marking

/-! ## Two calls -/

/-- Two calls that differ only in that readiness was computed early in the objects of the first. -/
structure Retraces (retried direct : Call σ) : Prop where
  outcome : retried.outcome = direct.outcome
  state : retried.state = direct.state
  object : retried.object.Ahead direct.object
  emissions : List.Forall₂ (fun e e' => e.object.Ahead e'.object ∧ e.notice = e'.notice)
    retried.emissions direct.emissions

theorem retraces_settle {r q : Request} (h : (start r.object).Ahead (start q.object))
    (hc : r.chart = q.chart) (hv : r.values = q.values) (t : Readings) (counters counters' : Counters)
    {trace : Trace σ} (started : trace.started = true) :
    Retraces (settle t r counters trace) (settle t q counters' trace) := by
  have hm : ∀ rs, (merged r rs).Ahead (merged q rs) := fun rs => h.mergeObserved _
  -- both calls find the same counters, so they take the same exit
  have same : r.object.statusOrNew.failures = q.object.statusOrNew.failures := h.failures_eq
  have sameInstall : r.object.statusOrNew.installFailures = q.object.statusOrNew.installFailures :=
    h.installFailures_eq
  refine settle_cases t q counters' (P := Retraces (settle t r counters trace)) trace (fun hres => ?_)
    (fun e hres hw => ?_) (fun e hres hw full => ?_) (fun e hres hw room full => ?_)
    (fun e hres hw room roomInstall => ?_) fun release hres => ?_
  · rw [settle_of_none t r counters hres, interrupted, interrupted, if_pos started, if_pos started]
    exact ⟨rfl, rfl, h, .nil⟩
  · rw [settle_of_error_nil t r counters hres hw]
    exact ⟨rfl, rfl, hm _, .nil⟩
  · rw [settle_uncounted t r counters hres hw (same.trans full)]
    exact ⟨rfl, rfl, hm _, .nil⟩
  · rw [settle_unremedied t r counters hres hw (same.trans_ne room) (sameInstall.trans full)]
    have told := ahead_told t (hm trace.reports) hc trace.log e
    exact ⟨rfl, rfl, told, .cons ⟨told, notice_told_congr t (hm _) hc hv _ e⟩ .nil⟩
  · rw [settle_failed t r counters hres hw (same.trans_ne room) (sameInstall.trans_ne roomInstall)]
    have told := ahead_told t (hm trace.reports) hc trace.log e
    exact ⟨rfl, rfl, ahead_failed t (hm _) hc _ e, .cons ⟨told, notice_told_congr t (hm _) hc hv _ e⟩ .nil⟩
  · rw [settle_of_ok t r counters hres]
    have succeeded := ahead_succeed t (hm trace.reports) release
    exact ⟨rfl, rfl, succeeded, .cons ⟨succeeded, notice_succeed_congr t (hm _) release⟩ .nil⟩

/-- Two calls with the same result, the same notices and events, the same storage, and the same
object but for the time at which readiness is said to have changed. -/
structure Repeats (retried direct : Call σ) : Prop where
  outcome : retried.outcome = direct.outcome
  notices : retried.emissions.map Emission.notice = direct.emissions.map Emission.notice
  events : ∀ (reporter : EventReporter) (now : Instant),
    (retried.emissions.map fun e => reporter.event now e.object e.notice) =
      direct.emissions.map fun e => reporter.event now e.object e.notice
  state : retried.state = direct.state
  declared : retried.object.SameDeclaration direct.object
  status : retried.object.status.map HelmReleaseStatus.timeless =
    direct.object.status.map HelmReleaseStatus.timeless

theorem Repeats.refl (call : Call σ) : Repeats call call :=
  ⟨rfl, rfl, fun _ _ => rfl, rfl, ⟨rfl, rfl⟩, rfl⟩

theorem Retraces.map_emissions {α : Type} {f : Emission → α} {retried direct : Call σ}
    (h : Retraces retried direct)
    (hf : ∀ e e' : Emission, e.object.Ahead e'.object ∧ e.notice = e'.notice → f e = f e') :
    retried.emissions.map f = direct.emissions.map f := by
  rw [← List.forall₂_eq_eq_eq, List.forall₂_map_left_iff, List.forall₂_map_right_iff]
  exact h.emissions.imp hf

/-- **Once readiness has been computed, calls that retrace each other are the same.** -/
theorem Retraces.repeats {retried direct : Call σ} (h : Retraces retried direct) (now : Instant) :
    Repeats { retried with object := retried.object.summarize now }
      { direct with object := direct.object.summarize now } where
  outcome := h.outcome
  notices := h.map_emissions fun _ _ he => he.2
  events := fun reporter time => h.map_emissions fun e e' he => by
    rw [he.2, reporter.event_congr he.1.declared.metadata]
  state := h.state
  declared := ⟨h.object.declared.metadata, h.object.declared.spec⟩
  status := h.object.timeless_summarize now

theorem Retraces.repeats_dropAtNotice {retried direct : Call σ} (h : Retraces retried direct)
    (now : Instant) (counters counters' : Counters) :
    Repeats (Call.dropAtNotice now counters { retried with object := retried.object.summarize now })
      (Call.dropAtNotice now counters' { direct with object := direct.object.summarize now }) := by
  obtain ⟨outcome, object, emissions, _, state⟩ := retried
  obtain ⟨outcome', object', emissions', _, state'⟩ := direct
  have through := h.repeats now
  have hemit := h.emissions
  cases hemit with
  | nil => exact through
  | cons he _ =>
    exact {
      outcome := rfl
      notices := through.notices
      events := through.events
      state := through.state
      declared := ⟨he.1.declared.metadata, he.1.declared.spec⟩
      status := he.1.timeless_summarize now }

/-! ## Failures without effect -/

theorem start_summarize_start (o : HelmRelease) (now : Instant) :
    start ((start o).summarize now) = (start o).summarize now := rfl

theorem merged_nil (r : Request) : merged r [] = start r.object := rfl

variable {s : Settings} {d : Driver σ} {a b : Attempt} {v w : Standing σ}

theorem request_congr (hm : a.metadata = b.metadata) (hs : a.spec = b.spec)
    (status : Option HelmReleaseStatus) : (a.request status).object = (b.request status).object := by
  unfold Attempt.request
  rw [hm, hs]

theorem room_of_noEffect (h : a.verdict s d w = .noEffect) : hasRoom s = true :=
  Attempt.room_of_ne fun unstarted => by cases unstarted.symm.trans h

/-- A failure without effect computes readiness over the object as the engine found it, and on a
steady driver it leaves storage alone. -/
theorem standing_of_noEffect (steady : d.Steady) (h : a.verdict s d w = .noEffect) :
    (a.request (a.call s d w).standing.object.status).object =
        (start (a.request w.object.status).object).summarize a.readings.summarized ∧
      (a.call s d w).standing.state = w.state := by
  obtain ⟨quiet, e, settled⟩ := Attempt.settled_of_noEffect h
  have through := Attempt.call_eq_of_silent (congrArg Call.emissions settled)
  have hstatus : (a.call s d w).object.status =
      ((start (a.request w.object.status).object).summarize a.readings.summarized).status := by
    rw [through, ← merged_nil]
    exact congrArg (fun call => (call.object.summarize a.readings.summarized).status) settled
  have room := room_of_noEffect h
  have hstate : (a.trace s d w).state = w.state := by
    rw [Attempt.journal, journal, if_pos room] at quiet
    rw [Attempt.trace, trace_of_room _ _ _ _ _ _ room]
    exact state_run steady a.readings.storage (program a.engine a.token (a.request w.object.status)) _
      (written_eq_nil.1 quiet)
  refine ⟨?_, ?_⟩
  · rw [Call.standing, hstatus]
    rfl
  · rw [through, ← hstate]
    exact congrArg Call.state settled

/-- What failures without effect leave of what was there before them: storage, and the object as the
engine of the first of them found it, with readiness computed. -/
structure Untouched (b : Attempt) (v w : Standing σ) : Prop where
  state : w.state = v.state
  object : (b.request w.object.status).object = (b.request v.object.status).object ∨
    ∃ now, (b.request w.object.status).object = (start (b.request v.object.status).object).summarize now

/-- **The step**: one more failure without effect on the same object. -/
theorem Untouched.call (h : Untouched b v w) (steady : d.Steady) (hm : a.metadata = b.metadata)
    (hs : a.spec = b.spec) (idle : a.verdict s d w = .noEffect) :
    Untouched b v (a.call s d w).standing := by
  obtain ⟨hobject, hstate⟩ := standing_of_noEffect steady idle
  rw [request_congr hm hs, request_congr hm hs] at hobject
  refine ⟨hstate.trans h.state, .inr ?_⟩
  rcases h.object with same | ⟨now, computed⟩
  · refine ⟨a.readings.summarized, ?_⟩
    rw [hobject, same]
  · -- the second failure computes readiness where the first has done so already
    refine ⟨now, ?_⟩
    rw [hobject, computed, start_summarize_start, HelmRelease.summarize_summarize]

theorem untouched_after (steady : d.Steady) (attempts : List Attempt)
    (declared : ∀ a ∈ attempts, a.metadata = b.metadata ∧ a.spec = b.spec) (h : Untouched b v w)
    (idle : ∀ x ∈ verdicts s d attempts w, x = .noEffect) : Untouched b v (after s d attempts w) := by
  induction attempts generalizing w with
  | nil => exact h
  | cons a rest ih =>
    obtain ⟨hm, hs⟩ := declared a List.mem_cons_self
    have hcall := h.call steady hm hs (idle _ List.mem_cons_self)
    exact ih (fun c hc => declared c (List.mem_cons_of_mem a hc)) hcall
      fun x hx => idle x (List.mem_cons_of_mem _ hx)

theorem Untouched.ahead (h : Untouched b v w) :
    (start (b.request w.object.status).object).Ahead (start (b.request v.object.status).object) := by
  rcases h.object with same | ⟨now, computed⟩
  · rw [same]
    exact .refl rfl
  · rw [computed, start_summarize_start]
    exact .summarized rfl now

/-- **A failure without effect can be retried as it is**, and so can any number of them: a call after
them repeats the call without them. The engine of that call is given the same run in both; the driver
changes its state by writing only. -/
theorem retry_after_no_effect (s : Settings) (d : Driver σ) (b : Attempt) (attempts : List Attempt)
    (w : Standing σ) (steady : d.Steady)
    (declared : ∀ a ∈ attempts, a.metadata = b.metadata ∧ a.spec = b.spec)
    (idle : ∀ x ∈ verdicts s d attempts w, x = .noEffect)
    (sameRun : b.engine (engineInput (b.request (after s d attempts w).object.status)) =
      b.engine (engineInput (b.request w.object.status))) :
    Repeats (b.call s d (after s d attempts w)) (b.call s d w) := by
  cases attempts with
  | nil => exact .refl _
  | cons a rest =>
  have room : hasRoom s = true := room_of_noEffect (idle _ List.mem_cons_self)
  generalize a :: rest = attempts at *
  have untouched : Untouched b w (after s d attempts w) :=
    untouched_after steady attempts declared ⟨rfl, .inl rfl⟩ idle
  -- the engine is given the same run over the same storage, so everything it does is the same
  have sameTrace : b.trace s d (after s d attempts w) = b.trace s d w := by
    unfold Attempt.trace Install.trace program
    rw [sameRun, untouched.state]
  have hretried : b.settled s d (after s d attempts w) =
      settle b.readings (b.request (after s d attempts w).object.status) (after s d attempts w).counters
        (b.trace s d w) := by
    rw [← sameTrace]
    rfl
  have retraces : Retraces (b.settled s d (after s d attempts w)) (b.settled s d w) := by
    rw [hretried]
    exact retraces_settle untouched.ahead rfl rfl b.readings _ _ ((b.started_eq s d w).trans room)
  unfold Attempt.call
  split
  · exact retraces.repeats_dropAtNotice b.readings.summarized _ _
  · exact retraces.repeats b.readings.summarized

/-! ### A call after two failures without effect

The first engine is refused at once, the second deletes what is not there and is cancelled. -/

namespace Sample

def refusals : List Attempt :=
  [attempt fun _ => .finish (.error timeout),
    attempt fun _ => .storage (.delete "absent") fun _ => .cancel .hang]

end Sample

theorem retry_after_no_effect_twice :
    let retried := (Sample.attempt Sample.engine).call {} Records.driver
      (after {} Records.driver Sample.refusals Sample.tested)
    let direct := (Sample.attempt Sample.engine).call {} Records.driver Sample.tested
    verdicts {} Records.driver Sample.refusals Sample.tested = [.noEffect, .noEffect] ∧
      retried.outcome = .ok ∧ Repeats retried direct := by
  intro retried direct
  have verdicts_eq : verdicts {} Records.driver Sample.refusals Sample.tested =
    [.noEffect, .noEffect] := rfl
  refine ⟨verdicts_eq, rfl, retry_after_no_effect {} Records.driver (Sample.attempt Sample.engine)
    Sample.refusals Sample.tested steady_driver ?_ ?_ rfl⟩
  · intro a ha
    rcases List.mem_pair.1 ha with rfl | rfl
    · exact ⟨rfl, rfl⟩
    · exact ⟨rfl, rfl⟩
  · rw [verdicts_eq]
    decide

end Install

end ReleaseControl
