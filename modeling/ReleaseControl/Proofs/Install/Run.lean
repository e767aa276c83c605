import ReleaseControl.Proofs.Install.Readiness

/-!
# Runs on an object

No step of a run changes what the object declares.
-/

namespace ReleaseControl

variable {σ : Type}

namespace HelmRelease

theorem getD_modifyStatus? (o : HelmRelease) (f : HelmReleaseStatus → Option HelmReleaseStatus) :
    (o.modifyStatus? f).getD o = o ∨
      ∃ s, f o.statusOrNew = some s ∧ (o.modifyStatus? f).getD o = { o with status := some s } := by
  rw [modifyStatus?]
  cases h : f o.statusOrNew with
  | none => exact .inl rfl
  | some s => exact .inr ⟨s, rfl, rfl⟩

theorem sameDeclaration_apply (o : HelmRelease) (c : Change) : (c.apply o).SameDeclaration o := by
  have counted (f : HelmReleaseStatus → Option HelmReleaseStatus) :
      ((o.modifyStatus? f).getD o).SameDeclaration o := by
    rcases o.getD_modifyStatus? f with same | ⟨s, -, more⟩
    · rw [same]
      exact ⟨rfl, rfl⟩
    · rw [more]
      exact ⟨rfl, rfl⟩
  cases c with
  | countFailure | countInstallFailure _ => exact counted _
  | _ => exact ⟨rfl, rfl⟩

end HelmRelease

namespace Install

variable {s : Settings} {d : Driver σ}

theorem sameDeclaration_perform (step : Step) (w : Standing σ) :
    (step.perform s d w).after.object.SameDeclaration w.object := by
  cases step with
  | change c => exact w.object.sameDeclaration_apply c
  | install a => exact sameDeclaration_call s d (a.attempt w.object) w

def Sample.install (engine : Engine) : Step := .install (arguments engine)

end Install

end ReleaseControl
