import ReleaseControl.Proofs.Condition.Lookup

/-!
# Fresh readiness

A condition set is fresh when readiness says what the first of its sources says: a remediation, else a
test result that counts, else the outcome of the last release action.
-/

namespace ReleaseControl

namespace Conditions

/-- Readiness has a status, the reason and message of a condition, and a generation. -/
def ReadyFollows (generation : Int64) (status : ConditionStatus) (source : Condition)
    (cs : Conditions) : Prop :=
  ∃ ready, cs.get? .ready = some ready ∧ ready.status = status ∧ ready.reason = source.reason ∧
    ready.message = source.message ∧ ready.observedGeneration = generation

/-- Readiness is up to date for a generation, `testsCount` telling whether tests count. -/
structure Fresh (generation : Int64) (testsCount : Bool) (cs : Conditions) : Prop where
  /-- Computing readiness again changes nothing, whatever the clock shows. -/
  fixed : ∀ now, cs.summarize now generation testsCount = cs
  remediated : ∀ c, cs.get? .remediated = some c → cs.ReadyFollows generation .false c
  tested : cs.get? .remediated = none → testsCount = true →
    ∀ c, cs.get? .testSuccess = some c → cs.ReadyFollows generation c.status c
  released : cs.get? .remediated = none → (testsCount = true → cs.get? .testSuccess = none) →
    ∀ c, cs.get? .released = some c → cs.ReadyFollows generation c.status c

variable {cs : Conditions} {c : Condition} {testsCount : Bool} {status : ConditionStatus}

/-! ## Sources -/

theorem readySource?_of_remediated (h : cs.get? .remediated = some c) :
    cs.readySource? testsCount = some (.false, c) := by
  rw [readySource?, h]

theorem readySource?_of_tested (hr : cs.get? .remediated = none) (h : cs.get? .testSuccess = some c) :
    cs.readySource? true = some (c.status, c) := by
  rw [readySource?, hr, if_pos rfl, h]

theorem readySource?_of_released (hr : cs.get? .remediated = none)
    (ht : testsCount = true → cs.get? .testSuccess = none) (h : cs.get? .released = some c) :
    cs.readySource? testsCount = some (c.status, c) := by
  have hif : (if testsCount then cs.get? .testSuccess else none) = none := by
    split
    · next hc => exact ht hc
    · rfl
  rw [readySource?, hr, hif, h]
  rfl

/-! ## Computing readiness -/

theorem readySource?_summarize (now : Instant) (generation : Int64) (testsCount : Bool)
    (cs : Conditions) : (cs.summarize now generation testsCount).readySource? testsCount =
      cs.readySource? testsCount :=
  readySource?_congr testsCount fun _ h => ofType_summarize h now generation testsCount cs

/-- The readiness that is computed, before it is put into the set. -/
def readiness (generation : Int64) (status : ConditionStatus) (source : Condition) : Condition where
  type := .ready
  status := status
  reason := source.reason
  message := source.message
  observedGeneration := generation

theorem summarize_of_none (h : cs.readySource? testsCount = none) (now : Instant)
    (generation : Int64) : cs.summarize now generation testsCount = cs := by
  rw [summarize, h]

theorem summarize_of_some (h : cs.readySource? testsCount = some (status, c)) (now : Instant)
    (generation : Int64) : cs.summarize now generation testsCount =
      cs.setFirst now (readiness generation status c) := by
  rw [summarize, h]
  rfl

theorem get?_ready_summarize (h : cs.readySource? testsCount = some (status, c)) (now : Instant)
    (generation : Int64) : (cs.summarize now generation testsCount).get? .ready =
      some (placed now (readiness generation status c) cs) := by
  rw [summarize_of_some h]
  exact get?_setFirst now _ cs

/-- **Computing readiness a second time changes nothing**, not even its transition time. -/
theorem summarize_summarize (now later : Instant) (generation : Int64) (testsCount : Bool)
    (cs : Conditions) : (cs.summarize now generation testsCount).summarize later generation testsCount =
      cs.summarize now generation testsCount := by
  cases h : cs.readySource? testsCount with
  | none => rw [summarize_of_none h, summarize_of_none h]
  | some source =>
    obtain ⟨status, c⟩ := source
    have h' := (readySource?_summarize now generation testsCount cs).trans h
    rw [summarize_of_some h' later]
    refine setFirst_of_get? (get?_ready_summarize h now generation)
      (placed_lastTransitionTime_isSome _ _ _) ?_
    unfold placed
    split <;> rfl

theorem readyFollows_summarize (now : Instant) (generation : Int64)
    (h : (cs.summarize now generation testsCount).readySource? testsCount = some (status, c)) :
    (cs.summarize now generation testsCount).ReadyFollows generation status c := by
  rw [readySource?_summarize] at h
  refine ⟨_, get?_ready_summarize h now generation, ?_⟩
  simp [readiness]

/-- **Computing readiness makes any set fresh.** -/
theorem fresh_summarize (now : Instant) (generation : Int64) (testsCount : Bool) (cs : Conditions) :
    (cs.summarize now generation testsCount).Fresh generation testsCount where
  fixed later := summarize_summarize now later generation testsCount cs
  remediated _ h := readyFollows_summarize now generation (readySource?_of_remediated h)
  tested hr ht _ h := by
    subst ht
    exact readyFollows_summarize now generation (readySource?_of_tested hr h)
  released hr ht _ h := readyFollows_summarize now generation (readySource?_of_released hr ht h)

end Conditions

end ReleaseControl
