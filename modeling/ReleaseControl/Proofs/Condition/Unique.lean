import Mathlib.Data.List.Nodup
import ReleaseControl.Proofs.Condition.Lookup

/-!
# At most one condition of a type

Setting a condition looks for one of its type first, so no type is listed twice by it.
-/

namespace ReleaseControl

namespace Conditions

def OfDistinctTypes (cs : Conditions) : Prop := (cs.map Condition.type).Nodup

variable {now : Instant} {cs : Conditions}

theorem types_replace (now : Instant) (c : Condition) (cs : Conditions) :
    (replace now c cs).map Condition.type = cs.map Condition.type := by
  induction cs with
  | nil => rfl
  | cons old cs ih =>
    rw [replace]
    split
    · next same => rw [List.map_cons, List.map_cons, same]
    · rw [List.map_cons, List.map_cons, ih]

theorem notMem_types {type : ConditionType} (h : ¬ (cs.get? type).isSome) :
    type ∉ cs.map Condition.type := by
  intro hm
  obtain ⟨c, hc, rfl⟩ := List.mem_map.1 hm
  exact h (List.find?_isSome.2 ⟨c, hc, beq_self_eq_true _⟩)

namespace OfDistinctTypes

theorem set (h : cs.OfDistinctTypes) (now : Instant) (c : Condition) :
    (cs.set now c).OfDistinctTypes := by
  unfold Conditions.set
  split
  · rw [OfDistinctTypes, types_replace]
    exact h
  · next new =>
    rw [OfDistinctTypes, List.map_append, List.map_singleton, timed_type, ← List.concat_eq_append]
    exact h.concat (notMem_types new)

theorem setFirst (h : cs.OfDistinctTypes) (now : Instant) (c : Condition) :
    (cs.setFirst now c).OfDistinctTypes := by
  unfold Conditions.setFirst
  split
  · rw [OfDistinctTypes, types_replace]
    exact h
  · next new => exact List.nodup_cons.2 ⟨notMem_types new, h⟩

theorem delete (h : cs.OfDistinctTypes) (type : ConditionType) : (cs.delete type).OfDistinctTypes :=
  h.sublist ((List.filter_sublist).map _)

theorem summarize (h : cs.OfDistinctTypes) (now : Instant) (generation : Int64) (testsCount : Bool) :
    (cs.summarize now generation testsCount).OfDistinctTypes := by
  unfold Conditions.summarize
  split
  · exact h
  · exact h.setFirst now _

end OfDistinctTypes

end Conditions

end ReleaseControl
