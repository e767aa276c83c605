import ReleaseControl.Proofs.Install.Run
import ReleaseControl.Proofs.Object.RoundTrip

/-!
# Runs on objects that are stored in between

* `HelmRelease.Readable`: an object that reads back once it is written.
* `runStored`: a run whose object is written and read again before some of its steps.
* **`persistence_invisible`**: it goes like the run without.
-/

namespace ReleaseControl

variable {σ : Type}

namespace HelmRelease

def stored (o : HelmRelease) : Except DecodeError HelmRelease := codec.decode (codec.encode o)

/-- The object reads back from what it is written as. -/
def Readable (o : HelmRelease) : Prop := o.stored = .ok o

theorem readable {o : HelmRelease} (h : o.spec.values ≠ some .null) : o.Readable := decode_encode h

end HelmRelease

namespace Install

variable (s : Settings) (d : Driver σ)

/-- The object of a step, written and read again if the step is flagged. -/
def storedIf (flag : Bool) (o : HelmRelease) : Except DecodeError HelmRelease :=
  if flag then o.stored else .ok o

/-- A run whose object is written and read again before each step that is flagged, as long as it can be
read. -/
def runStored : List (Bool × Step) → Standing σ → Except DecodeError (List (Performed σ))
  | [], _ => .ok []
  | (flag, step) :: rest, w => do
    let o ← storedIf flag w.object
    let done := step.perform s d { w with object := o }
    let others ← runStored rest done.after
    return done :: others

variable {s d}

theorem values_perform (step : Step) {w : Standing σ} (h : w.object.spec.values ≠ some .null) :
    (step.perform s d w).after.object.spec.values ≠ some .null := by
  rw [(sameDeclaration_perform step w).spec]
  exact h

/-- **A run goes on as if nothing had been stored.** -/
theorem runStored_eq (steps : List (Bool × Step)) {w : Standing σ}
    (h : w.object.spec.values ≠ some .null) :
    runStored s d steps w = .ok (run s d (steps.map Prod.snd) w) := by
  induction steps generalizing w with
  | nil => rfl
  | cons entry rest ih =>
    obtain ⟨flag, step⟩ := entry
    have same : storedIf flag w.object = .ok w.object := by
      cases flag with
      | true => exact HelmRelease.readable h
      | false => rfl
    rw [runStored, same]
    simp only [bind, Except.bind, ih (values_perform step h)]
    rfl

/-- **Storing an object cannot be noticed.** What can be read as an object reads back to the object once
it is written; so does every object that a run on it reaches, by whatever changes and installs; and a run
whose object is written and read again before any of its steps goes like the run without, in what each
call returns, tells and leaves behind. -/
theorem persistence_invisible (s : Settings) (d : Driver σ) (counters : Counters) (state : σ) {v : Json}
    {o : HelmRelease} (h : HelmRelease.codec.decode v = .ok o) :
    o.Readable ∧
      (∀ steps, ∀ done ∈ run s d steps ⟨o, counters, state⟩, done.after.object.Readable) ∧
      ∀ steps, runStored s d steps ⟨o, counters, state⟩ =
        .ok (run s d (steps.map Prod.snd) ⟨o, counters, state⟩) := by
  have values := HelmRelease.values_ne_null h
  refine ⟨HelmRelease.readable values, fun steps => ?_, fun steps => runStored_eq steps values⟩
  refine forall_mem_trail (P := fun w => w.object.spec.values ≠ some .null) (fun step w hw => ?_) steps
    values
  have kept : (step.perform s d w).after.object.spec.values ≠ some .null := values_perform step hw
  exact ⟨HelmRelease.readable kept, kept⟩

/-! ### An install that is retried

The object is stored before its tests are marked, before an install that times out and before one that
succeeds. -/

namespace Sample

def storedSteps : List (Bool × Step) :=
  [(true, .change (.mark default .testSuccess .false "TestFailed" "smoke failed")),
    (true, install engine), (true, install fun _ => .finish (.ok pending))]

end Sample

theorem persistence_invisible_retried :
    HelmRelease.codec.decode (HelmRelease.codec.encode Sample.request.object) =
        .ok Sample.request.object ∧
      ∃ done, runStored {} Records.driver Sample.storedSteps
          ⟨Sample.request.object, {}, Table.empty⟩ = .ok done ∧
        done.map (fun p => p.call?.map Call.outcome) = [none, some .ok, some .ok] := by
  have read : HelmRelease.codec.decode (HelmRelease.codec.encode Sample.request.object) =
    .ok Sample.request.object := HelmRelease.decode_encode none_ne_some_null
  exact ⟨read, _, (persistence_invisible {} Records.driver {} Table.empty read).2.2 Sample.storedSteps,
    rfl⟩

end Install

end ReleaseControl
