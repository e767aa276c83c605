import ReleaseControl.Proofs.Install.Outcome
import ReleaseControl.Proofs.Install.Sequence

/-!
# Readiness after installs

However a call ends, readiness is computed over what the call left, so it is fresh. No call touches
a remediation, so readiness follows a remediation for as long as installs go on.

* `Descends`: the objects that a call makes of the one of its request.
* `remediated_call`: the step; **`readiness_after_calls`**: readiness after every call.
-/

namespace ReleaseControl

namespace Install

variable {σ : Type}

/-- The object declares what another one does and has the same remediations. -/
structure Descends (o p : HelmRelease) : Prop where
  declared : o.SameDeclaration p
  remediations : o.Keeps p .remediated

theorem Descends.trans {o p q : HelmRelease} (h : Descends o p) (k : Descends p q) : Descends o q :=
  ⟨h.declared.trans k.declared, h.remediations.trans k.remediations⟩

/-! ## Objects of a call -/

section Objects

variable (t : Readings) (r : Request)

theorem descends_start : Descends (start r.object) r.object := ⟨sameDeclaration_start r.object, rfl⟩

theorem descends_merged (rs : List Release) : Descends (merged r rs) r.object :=
  ⟨sameDeclaration_merged r rs, keeps_merged r rs _⟩

theorem descends_settle (counters : Counters) (trace : Trace σ) :
    Descends (settle t r counters trace).object r.object ∧
      ∀ e ∈ (settle t r counters trace).emissions, Descends e.object r.object := by
  refine objects_settle t r counters trace (P := fun o => Descends o r.object)
    (fun _ => ⟨⟨rfl, rfl⟩, rfl⟩) (descends_start r) (descends_merged r _) (fun o e ho => ?_) (fun o e ho => ?_)
    fun o release ho => ?_
  · exact .trans ⟨sameDeclaration_told t r _ e o, keeps_told t r (by decide) _ e o⟩ ho
  · exact .trans ⟨sameDeclaration_failed t r _ e o, keeps_failed t r (by decide) _ e o⟩ ho
  · exact .trans ⟨sameDeclaration_succeed t release o,
      keeps_succeed t (by decide) (by decide) release o⟩ ho

end Objects

/-! ## Calls -/

variable (s : Settings) (d : Driver σ) (a : Attempt) (w : Standing σ)

theorem exists_descends_call : ∃ o, Descends o (a.request w.object.status).object ∧
    (a.call s d w).object = o.summarize a.readings.summarized := by
  obtain ⟨hs, hn⟩ := descends_settle a.readings (a.request w.object.status) w.counters (a.trace s d w)
  rcases a.object_call s d w with h | ⟨e, he, h⟩
  · exact ⟨_, hs, h⟩
  · exact ⟨_, hn e he, h⟩

theorem sameDeclaration_call : (a.call s d w).object.SameDeclaration (a.request w.object.status).object := by
  obtain ⟨o, ho, h⟩ := exists_descends_call s d a w
  rw [h]
  exact (o.sameDeclaration_summarize _).trans ho.declared

theorem fresh_call : (a.call s d w).object.conditions.Fresh (a.call s d w).object.generation
    (a.call s d w).object.testsCount := by
  obtain ⟨o, -, h⟩ := exists_descends_call s d a w
  rw [h]
  exact o.fresh_conditions_summarize _

/-- **The step**: a call hands on the remediation that it found. -/
theorem remediated_call :
    (a.call s d w).object.conditions.get? .remediated = w.object.conditions.get? .remediated := by
  obtain ⟨o, ho, h⟩ := exists_descends_call s d a w
  rw [h]
  exact Conditions.get?_congr ((o.keeps_summarize _ (by decide)).trans ho.remediations)

/-- **Readiness after every call**, whatever becomes of it: readiness is fresh for what the object
declares at that call, and through any sequence of calls on an object with a remediation it is false,
for the reason and with the message of that remediation. -/
theorem readiness_after_calls :
    (∀ (a : Attempt) (w : Standing σ), (a.call s d w).object.metadata = a.metadata ∧
      (a.call s d w).object.spec = a.spec ∧
      (a.call s d w).object.conditions.Fresh (a.call s d w).object.generation
        (a.call s d w).object.testsCount) ∧
    (∀ (attempts : List Attempt) (w : Standing σ) (c : Condition),
      w.object.conditions.get? .remediated = some c → ∀ call ∈ calls s d attempts w,
        call.object.conditions.get? .remediated = some c ∧
        call.object.conditions.ReadyFollows call.object.generation .false c) := by
  refine ⟨fun a w => ?_, fun attempts w c h => ?_⟩
  · have hd := sameDeclaration_call s d a w
    exact ⟨hd.metadata, hd.spec, fresh_call s d a w⟩
  · refine forall_mem_trail (P := fun w => w.object.conditions.get? .remediated = some c)
      (fun a w hw => ?_) attempts h
    have hr := (remediated_call s d a w).trans hw
    exact ⟨⟨hr, (fresh_call s d a w).remediated c hr⟩, hr⟩

/-! ### Calls on an object with a remediation

The object was rolled back and is still said to be ready. One call fails, the next is dropped while
it tells of its success, and the engine of the last panics. -/

namespace Sample

def rollback : Condition where
  type := .remediated
  status := .true
  reason := "RollbackSucceeded"
  message := "rolled back to revision 1"

/-- An object with a status, where nothing has been stored or counted yet. -/
def standing (status : HelmReleaseStatus) : Standing Records where
  object := { request.object with status := some status }
  counters := {}
  state := Table.empty

def rolledBack : Standing Records :=
  standing { conditions := [{ type := .ready, status := .true }, rollback] }

def arguments (engine : Engine) : Arguments where
  chart := chart
  values := .null
  engine := engine
  readings := readings

def attempt (engine : Engine) : Attempt := (arguments engine).attempt request.object

/-- An object that was released and tested before, and has no readiness yet. -/
def tested : Standing Records := standing status

def attempts : List Attempt :=
  [attempt engine, { attempt fun _ => .finish (.ok pending) with dropped := true },
    attempt fun _ => .panic "out of range"]

end Sample

theorem readiness_after_calls_rolled_back :
    Sample.rolledBack.object.conditions.get? .remediated = some Sample.rollback ∧
      (calls {} Records.driver Sample.attempts Sample.rolledBack).map Call.outcome =
        [.ok, .dropped, .panicked "out of range"] ∧
      ∀ call ∈ calls {} Records.driver Sample.attempts Sample.rolledBack,
        call.object.conditions.get? .remediated = some Sample.rollback ∧
        call.object.conditions.ReadyFollows call.object.generation .false Sample.rollback :=
  ⟨rfl, rfl, (readiness_after_calls {} Records.driver).2 Sample.attempts Sample.rolledBack Sample.rollback
    rfl⟩

end Install

end ReleaseControl
