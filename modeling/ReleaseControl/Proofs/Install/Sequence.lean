import ReleaseControl.Install.Run
import ReleaseControl.Proofs.Install.Exit

/-!
# Calls that follow each other

* `forall_mem_trail`: what each of some steps keeps holds throughout.
* `Attempt.call_cases`: a call goes through or is dropped at a notice; `object_call`.
-/

namespace ReleaseControl

variable {σ : Type}

/-- **What a step keeps holds throughout**: `P` of where it comes to, and `Q` of what it leaves behind. -/
theorem forall_mem_trail {α β γ : Type} {perform : α → β → γ} {after : γ → β} {P : β → Prop}
    {Q : γ → Prop} (one : ∀ step w, P w → Q (perform step w) ∧ P (after (perform step w)))
    (steps : List α) {w : β} (h : P w) : ∀ done ∈ trail perform after steps w, Q done := by
  induction steps generalizing w with
  | nil => exact List.forall_mem_nil Q
  | cons step rest ih =>
    intro done hd
    rcases List.mem_cons.1 hd with rfl | hd
    · exact (one step w h).1
    · exact ih (one step w h).2 done hd

namespace Call

theorem dropAtNotice_of_nil {call : Call σ} (h : call.emissions = []) (now : Instant)
    (counters : Counters) : call.dropAtNotice now counters = call := by
  rw [dropAtNotice, h]

theorem dropAtNotice_of_cons {call : Call σ} {e : Emission} {es : List Emission}
    (h : call.emissions = e :: es) (now : Instant) (counters : Counters) :
    call.dropAtNotice now counters =
      { call with outcome := .dropped, object := e.object.summarize now, counters := counters } := by
  rw [dropAtNotice, h]

end Call

namespace Install

namespace Attempt

def trace (s : Settings) (d : Driver σ) (a : Attempt) (w : Standing σ) : Trace σ :=
  Install.trace s a.engine d a.readings a.token (a.request w.object.status) w.state

def settled (s : Settings) (d : Driver σ) (a : Attempt) (w : Standing σ) : Call σ :=
  settle a.readings (a.request w.object.status) w.counters (a.trace s d w)

theorem call_cases (s : Settings) (d : Driver σ) (a : Attempt) (w : Standing σ) :
    a.call s d w = a.reconciled s d w ∨ ∃ e ∈ (a.settled s d w).emissions,
      a.call s d w =
        { a.reconciled s d w with
          outcome := .dropped
          object := e.object.summarize a.readings.summarized
          counters := w.counters } := by
  have notice : (a.reconciled s d w).emissions = (a.settled s d w).emissions := rfl
  rw [call]
  cases a.dropped with
  | false => exact .inl rfl
  | true =>
    rw [if_pos rfl, ← notice]
    cases he : (a.reconciled s d w).emissions with
    | nil => exact .inl (Call.dropAtNotice_of_nil he _ _)
    | cons e es => exact .inr ⟨e, List.mem_cons_self, Call.dropAtNotice_of_cons he _ _⟩

/-- **Readiness is computed last**, over the object at the end of the call or at its notice. -/
theorem object_call (s : Settings) (d : Driver σ) (a : Attempt) (w : Standing σ) :
    (a.call s d w).object = (a.settled s d w).object.summarize a.readings.summarized ∨
      ∃ e ∈ (a.settled s d w).emissions,
        (a.call s d w).object = e.object.summarize a.readings.summarized := by
  rcases call_cases s d a w with through | ⟨e, he, dropped⟩
  · left
    rw [through]
    rfl
  · right
    refine ⟨e, he, ?_⟩
    rw [dropped]

theorem call_eq_of_returned {s : Settings} {d : Driver σ} {a : Attempt} {w : Standing σ}
    (h : (a.call s d w).outcome.Returned) : a.call s d w = a.reconciled s d w := by
  rcases call_cases s d a w with through | ⟨e, -, dropped⟩
  · exact through
  · rw [dropped] at h
    exact h.elim

end Attempt

theorem getElem?_calls {s : Settings} {d : Driver σ} (earlier : List Attempt) (a : Attempt)
    (later : List Attempt) (w : Standing σ) :
    (calls s d (earlier ++ a :: later) w)[earlier.length]? = some (a.call s d (after s d earlier w)) := by
  induction earlier generalizing w with
  | nil => rfl
  | cons b earlier ih => exact ih (b.call s d w).standing

end Install

end ReleaseControl
