import ReleaseControl.Object.Basic
import ReleaseControl.Proofs.Condition.Freshness

/-!
# Status of an object

What marking conditions, computing readiness and merging observed releases do to an object: the
metadata and the specification stay, and of the status only the conditions or the history change.
-/

namespace ReleaseControl

/-- What a condition of an object is marked with. -/
structure Mark where
  type : ConditionType
  status : ConditionStatus
  reason : String
  message : String

/-- The condition that a mark sets on an object of a generation, before it gets a time. -/
def Mark.condition (m : Mark) (generation : Int64) : Condition where
  type := m.type
  status := m.status
  reason := m.reason
  message := m.message
  observedGeneration := generation

namespace HelmRelease

/-- The conditions of an object, none when there is no status. -/
def conditions (o : HelmRelease) : Conditions := o.statusOrNew.conditions

/-- Two objects agree in all but the status. -/
structure SameDeclaration (o p : HelmRelease) : Prop where
  metadata : o.metadata = p.metadata
  spec : o.spec = p.spec

namespace SameDeclaration

variable {o p q : HelmRelease}

theorem trans (h : o.SameDeclaration p) (k : p.SameDeclaration q) : o.SameDeclaration q :=
  ⟨h.metadata.trans k.metadata, h.spec.trans k.spec⟩

theorem generation_eq (h : o.SameDeclaration p) : o.generation = p.generation := by
  rw [generation, generation, h.metadata]

theorem test_eq (h : o.SameDeclaration p) : o.test = p.test := by
  rw [test, test, h.spec]

theorem testsCount_eq (h : o.SameDeclaration p) : o.testsCount = p.testsCount := by
  rw [testsCount, testsCount, h.test_eq]

theorem releaseName_eq (h : o.SameDeclaration p) : o.releaseName = p.releaseName := by
  rw [releaseName, releaseName, h.spec, h.metadata]

theorem releaseNamespace_eq (h : o.SameDeclaration p) : o.releaseNamespace = p.releaseNamespace := by
  rw [releaseNamespace, releaseNamespace, namespaceOr, namespaceOr, h.spec, h.metadata]

end SameDeclaration

variable (o : HelmRelease)

/-! ## Declarations -/

theorem sameDeclaration_modifyStatus (f : HelmReleaseStatus → HelmReleaseStatus) :
    (o.modifyStatus f).SameDeclaration o := ⟨rfl, rfl⟩

theorem sameDeclaration_mark (now : Instant) (type : ConditionType) (status : ConditionStatus)
    (reason message : String) : (o.mark now type status reason message).SameDeclaration o := ⟨rfl, rfl⟩

theorem sameDeclaration_summarize (now : Instant) : (o.summarize now).SameDeclaration o := ⟨rfl, rfl⟩

theorem sameDeclaration_mergeObserved (observed : ObservedSet) :
    (o.mergeObserved observed).SameDeclaration o := ⟨rfl, rfl⟩

/-! ## The status -/

theorem statusOrNew_mark (now : Instant) (type : ConditionType) (status : ConditionStatus)
    (reason message : String) : (o.mark now type status reason message).statusOrNew =
      { o.statusOrNew with
        conditions := o.conditions.set now
          { type := type
            status := status
            reason := reason
            message := message
            observedGeneration := o.generation } } := rfl

theorem statusOrNew_mergeObserved (observed : ObservedSet) :
    (o.mergeObserved observed).statusOrNew =
      { o.statusOrNew with history := observed.mergeInto o.statusOrNew.history } := rfl

/-- An object without status has no condition that readiness could follow from. -/
theorem statusOrNew_summarize (now : Instant) : (o.summarize now).statusOrNew =
    { o.statusOrNew with
      conditions := o.conditions.summarize now o.generation o.testsCount } := by
  cases h : o.status with
  | some s => simp [summarize, statusOrNew, conditions, h]
  | none =>
    have hnil : Conditions.summarize now o.generation o.testsCount [] = [] := by
      cases hc : o.testsCount <;> rfl
    simp [summarize, statusOrNew, conditions, h, hnil]

/-! ## Conditions -/

theorem conditions_summarize (now : Instant) : (o.summarize now).conditions =
    o.conditions.summarize now o.generation o.testsCount := by
  rw [conditions, statusOrNew_summarize]

theorem ofType_conditions_summarize {type : ConditionType} (h : type ≠ .ready) (now : Instant) :
    (o.summarize now).conditions.ofType type = o.conditions.ofType type := by
  rw [conditions_summarize, Conditions.ofType_summarize h]

theorem ofType_conditions_mark {type marked : ConditionType} (h : type ≠ marked) (now : Instant)
    (status : ConditionStatus) (reason message : String) :
    (o.mark now marked status reason message).conditions.ofType type = o.conditions.ofType type := by
  rw [conditions, statusOrNew_mark]
  exact Conditions.ofType_set h _

/-- **A marked condition is found at the generation of the object.** -/
theorem get?_conditions_mark (now : Instant) (type : ConditionType) (status : ConditionStatus)
    (reason message : String) :
    ∃ c, (o.mark now type status reason message).conditions.get? type = some c ∧ c.status = status ∧
      c.reason = reason ∧ c.message = message ∧ c.observedGeneration = o.generation := by
  rw [conditions, statusOrNew_mark]
  refine ⟨_, Conditions.get?_set now _ _, ?_⟩
  simp

theorem summarize_summarize (now later : Instant) :
    (o.summarize now).summarize later = o.summarize now := by
  have hs : ∀ s : HelmReleaseStatus,
      (s.conditions.summarize now o.generation o.testsCount).summarize later o.generation o.testsCount =
        s.conditions.summarize now o.generation o.testsCount :=
    fun s => Conditions.summarize_summarize now later o.generation o.testsCount s.conditions
  have hd := o.sameDeclaration_summarize now
  rw [summarize, hd.generation_eq, hd.testsCount_eq]
  cases h : o.status with
  | none => simp [summarize, h]
  | some s => simp [summarize, h, hs]

/-- **Readiness is fresh once it has been computed**, at the generation and the test settings of
the object. -/
theorem fresh_conditions_summarize (now : Instant) :
    (o.summarize now).conditions.Fresh (o.summarize now).generation (o.summarize now).testsCount := by
  rw [conditions_summarize]
  exact Conditions.fresh_summarize now _ _ _

end HelmRelease

end ReleaseControl
