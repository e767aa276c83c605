import ReleaseControl.Number.Count

/-!
# Counts go up

A count that can be counted further is one more afterwards, and only the largest number cannot be.
-/

namespace ReleaseControl

variable {n : Int64}

theorem toInt_add_one (h : n ≠ Int64.maxValue) : (n + 1).toInt = n.toInt + 1 := by
  have ne : n.toInt ≠ Int64.maxValue.toInt := mt Int64.toInt_inj.1 h
  have hle := n.toInt_le
  have hge := n.le_toInt
  rw [Int64.toInt_maxValue] at ne hle
  rw [Int64.toInt_add, Int64.toInt_one]
  exact Int.bmod_eq_of_le (by omega) (by omega)

theorem lt_add_one_of_ne (h : n ≠ Int64.maxValue) : n < n + 1 := by
  rw [Int64.lt_iff_toInt_lt, toInt_add_one h]
  omega

theorem countUp?_of_ne (h : n ≠ Int64.maxValue) : countUp? n = some (n + 1) := if_neg h

theorem countUp?_eq_none_iff : countUp? n = none ↔ n = Int64.maxValue := by
  rw [countUp?]
  split
  · next full => exact iff_of_true rfl full
  · next room => exact iff_of_false (Option.some_ne_none _) room

theorem lt_of_countUp? {m : Int64} (h : countUp? n = some m) : n < m := by
  have room : n ≠ Int64.maxValue := fun full => by
    rw [countUp?_eq_none_iff.2 full] at h
    cases h
  rw [countUp?_of_ne room] at h
  cases h
  exact lt_add_one_of_ne room

section Counting

variable {P : Prop} [Decidable P]

/-- **What counts only below the largest number** goes up just when it counts. -/
theorem lt_count_iff (room : P → n ≠ Int64.maxValue) : n < (if P then n + 1 else n) ↔ P := by
  split
  · next counts => exact iff_of_true (lt_add_one_of_ne (room counts)) counts
  · next uncounted => exact iff_of_false Int64.lt_irrefl uncounted

theorem le_count (room : P → n ≠ Int64.maxValue) : n ≤ if P then n + 1 else n := by
  split
  · next counts => exact Int64.le_of_lt (lt_add_one_of_ne (room counts))
  · exact Int64.le_refl n

end Counting

end ReleaseControl
