import ReleaseControl.Proofs.Condition.Early
import ReleaseControl.Proofs.Object.Status

/-!
# Objects with early readiness

Two objects that differ only in that readiness has been computed early in one of them (`Ahead`) keep doing
so while the same is done to both, until readiness is computed: **`Ahead.timeless_summarize`**.
-/

namespace ReleaseControl

/-- The status with the transition time of its first readiness left out. -/
def HelmReleaseStatus.timeless (s : HelmReleaseStatus) : HelmReleaseStatus :=
  { s with conditions := s.conditions.timeless }

namespace HelmRelease

/-- The object `o` is `p`, which has a status, save that readiness may have been computed early. -/
structure Ahead (o p : HelmRelease) : Prop where
  declared : o.SameDeclaration p
  status : ∃ s cs, p.status = some s ∧ o.status = some { s with conditions := cs } ∧
    Conditions.Early p.testsCount s.conditions cs

namespace Ahead

variable {o p : HelmRelease}

theorem refl {s : HelmReleaseStatus} (h : o.status = some s) : o.Ahead o :=
  ⟨⟨rfl, rfl⟩, s, s.conditions, h, h, .same⟩

theorem summarized {s : HelmReleaseStatus} (h : o.status = some s) (now : Instant) :
    (o.summarize now).Ahead o := by
  refine ⟨o.sameDeclaration_summarize now, s, _, h, ?_,
    Conditions.early_summarize now o.generation o.testsCount s.conditions⟩
  rw [summarize, h]
  rfl

theorem exists_statusOrNew (h : o.Ahead p) : ∃ s cs, p.statusOrNew = s ∧
    o.statusOrNew = { s with conditions := cs } ∧ Conditions.Early p.testsCount s.conditions cs := by
  obtain ⟨s, cs, hp, ho, early⟩ := h.status
  exact ⟨s, cs, by rw [statusOrNew, hp]; rfl, by rw [statusOrNew, ho]; rfl, early⟩

theorem history_eq (h : o.Ahead p) : o.statusOrNew.history = p.statusOrNew.history := by
  obtain ⟨s, cs, hp, ho, -⟩ := h.exists_statusOrNew
  rw [hp, ho]

theorem failures_eq (h : o.Ahead p) : o.statusOrNew.failures = p.statusOrNew.failures := by
  obtain ⟨s, cs, hp, ho, -⟩ := h.exists_statusOrNew
  rw [hp, ho]

theorem installFailures_eq (h : o.Ahead p) :
    o.statusOrNew.installFailures = p.statusOrNew.installFailures := by
  obtain ⟨s, cs, hp, ho, -⟩ := h.exists_statusOrNew
  rw [hp, ho]

/-- A change of the status that neither reads nor writes conditions. -/
theorem modifyStatus (h : o.Ahead p) {f : HelmReleaseStatus → HelmReleaseStatus}
    (blind : ∀ s cs, f { s with conditions := cs } = { f s with conditions := cs }) :
    (o.modifyStatus f).Ahead (p.modifyStatus f) := by
  obtain ⟨s, cs, hp, ho, early⟩ := h.exists_statusOrNew
  have kept : (f s).conditions = s.conditions := congrArg (·.conditions) (blind s s.conditions)
  refine ⟨⟨h.declared.metadata, h.declared.spec⟩, f s, cs, ?_, ?_, ?_⟩
  · rw [HelmRelease.modifyStatus, hp]
  · rw [HelmRelease.modifyStatus, ho, blind]
  · rw [kept]
    exact early

theorem mark (h : o.Ahead p) (now : Instant) {type : ConditionType} (ht : type ≠ .ready)
    (status : ConditionStatus) (reason message : String) :
    (o.mark now type status reason message).Ahead (p.mark now type status reason message) := by
  obtain ⟨s, cs, hp, ho, early⟩ := h.exists_statusOrNew
  let c : Condition :=
    { type := type, status := status, reason := reason, message := message,
      observedGeneration := p.generation }
  refine ⟨⟨h.declared.metadata, h.declared.spec⟩, { s with conditions := s.conditions.set now c },
    cs.set now c, ?_, ?_, early.set ht⟩
  · rw [HelmRelease.mark, HelmRelease.modifyStatus, hp]
  · rw [HelmRelease.mark, HelmRelease.modifyStatus, ho, h.declared.generation_eq]

theorem mergeObserved (h : o.Ahead p) (observed : ObservedSet) :
    (o.mergeObserved observed).Ahead (p.mergeObserved observed) :=
  h.modifyStatus fun _ _ => rfl

/-- **Computed at last, readiness makes up for having been computed early**, but for its time. -/
theorem timeless_summarize (h : o.Ahead p) (now : Instant) :
    (o.summarize now).status.map HelmReleaseStatus.timeless =
      (p.summarize now).status.map HelmReleaseStatus.timeless := by
  obtain ⟨s, cs, hp, ho, early⟩ := h.status
  have hcs := early.timeless_summarize now p.generation
  simp [summarize, ho, hp, h.declared.generation_eq, h.declared.testsCount_eq,
    HelmReleaseStatus.timeless, hcs]

end Ahead

end HelmRelease

end ReleaseControl
