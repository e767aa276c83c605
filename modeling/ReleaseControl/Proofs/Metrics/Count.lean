import ReleaseControl.Metrics.Actions

/-!
# What counters count

Counting under some labels adds one there and nothing anywhere else.
-/

namespace ReleaseControl

/-- **Counting once more** adds one under the given labels, and nothing under any others. -/
theorem Samples.count_increment (s : Samples) (values labels : List String) :
    count labels (increment values s) = count labels s + if labels = values then 1 else 0 := by
  rw [count, increment, Table.find?_insert]
  by_cases h : labels = values
  · rw [if_pos h, if_pos h, h, Option.getD_some]
  · rw [if_neg h, if_neg h]
    rfl

namespace Counters

theorem name_inj {result other : ActionResult} (h : result.name = other.name) : result = other := by
  revert h
  cases result <;> cases other <;> decide

theorem reconciliationCount_countReconciliation (c : Counters) (action : String)
    (result other : ActionResult) :
    (c.countReconciliation action result).reconciliationCount action other =
      c.reconciliationCount action other + if other = result then 1 else 0 := by
  have labels : [action, other.name] = [action, result.name] ↔ other = result := by
    refine ⟨fun hl => name_inj ?_, fun hr => by rw [hr]⟩
    simpa using hl
  rw [reconciliationCount, countReconciliation, Samples.count_increment]
  simp only [labels, reconciliationCount]

theorem remediationFailureCount_countRemediationFailure (c : Counters) (action : String) :
    (c.countRemediationFailure action).remediationFailureCount action =
      c.remediationFailureCount action + 1 := by
  rw [remediationFailureCount, countRemediationFailure, Samples.count_increment, if_pos rfl]
  rfl

end Counters

end ReleaseControl
