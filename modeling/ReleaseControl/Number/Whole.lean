/-!
# Whole numbers of 64 bits

The whole numbers that fit in 64 bits, with or without a sign.
-/

namespace ReleaseControl

/-- A whole number that fits in 64 bits, signed or unsigned. -/
structure Whole where
  value : Int
  lower : -0x8000000000000000 ≤ value
  upper : value < 0x10000000000000000
deriving DecidableEq

namespace Whole

instance : Inhabited Whole := ⟨0, by decide, by decide⟩

/-- The whole number of a value, if it fits. -/
def ofInt? (n : Int) : Option Whole :=
  if h : -0x8000000000000000 ≤ n ∧ n < 0x10000000000000000 then some ⟨n, h.1, h.2⟩ else none

def ofInt64 (n : Int64) : Whole :=
  ⟨n.toInt, n.le_toInt, by have := n.toInt_lt; omega⟩

def ofInt32 (n : Int32) : Whole :=
  ⟨n.toInt, by have := n.le_toInt; omega, by have := n.toInt_lt; omega⟩

def ofUInt64 (n : UInt64) : Whole :=
  ⟨n.toNat, by omega, by have := n.toNat_lt; omega⟩

@[simp] theorem ofInt?_value (n : Whole) : ofInt? n.value = some n := dif_pos ⟨n.lower, n.upper⟩

end Whole

end ReleaseControl
