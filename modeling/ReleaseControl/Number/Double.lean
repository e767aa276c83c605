/-!
# Double-precision numbers

The finite numbers of the binary format with 64 bits, as a sign and the order number of their
magnitude: magnitude `n` is `significand · 2 ^ exponent`, and a larger `n` is a larger magnitude.
Equality of `Double`s is equality of bit patterns, so `0.0` and `-0.0` differ.

* `Double.ofDecimal?`: the double nearest to a decimal, ties to the even significand; none when
  the decimal rounds beyond the largest double.
-/

namespace ReleaseControl

/-- A finite double: its sign and the order number of its magnitude. -/
structure Double where
  negative : Bool
  magnitude : Nat
  isFinite : magnitude < 2047 * Nat.pow 2 52
deriving DecidableEq

namespace Double

def zero : Double := ⟨false, 0, by decide⟩

instance : Inhabited Double := ⟨zero⟩

/-- The whole number that scales the power of two in a double. -/
def significand (x : Double) : Nat :=
  if x.magnitude < Nat.pow 2 52 then x.magnitude
  else Nat.pow 2 52 + x.magnitude % Nat.pow 2 52

/-- The power of two that the significand counts. -/
def exponent (x : Double) : Int := (max (x.magnitude / Nat.pow 2 52) 1 : Nat) - 1075

/-- The magnitude as a quotient of whole numbers. -/
def ratio (x : Double) : Nat × Nat :=
  if 0 ≤ x.exponent then (x.significand * Nat.pow 2 x.exponent.toNat, 1)
  else (x.significand, Nat.pow 2 (-x.exponent).toNat)

end Double

/-- The whole number nearest to `num / den`, an exact half going to the even neighbour. -/
def roundHalfEven (num den : Nat) : Nat :=
  let q := num / den
  let r := num % den
  if 2 * r < den then q else if den < 2 * r then q + 1 else q + q % 2

/-- Whether `base ^ k ≤ num / den`, for an exponent of either sign. -/
def powLe (base : Nat) (k : Int) (num den : Nat) : Bool :=
  if 0 ≤ k then den * base.pow k.toNat ≤ num else den ≤ num * base.pow (-k).toNat

/-- The largest `k` with `2 ^ k ≤ num / den`, for positive `num` and `den`. -/
def binaryOrder (num den : Nat) : Int :=
  let k : Int := (num.log2 : Int) - den.log2
  if powLe 2 k num den then k else k - 1

namespace Double

/-- The order number of the magnitude nearest to `num / den`, ties to the even significand. It
is beyond the last finite one when the quotient rounds to more than the largest double. -/
def nearestMagnitude (num den : Nat) : Nat :=
  let q := max (binaryOrder num den - 52) (-1074)
  let m := if 0 ≤ q then roundHalfEven num (den * Nat.pow 2 q.toNat)
    else roundHalfEven (num * Nat.pow 2 (-q).toNat) den
  (q + 1074).toNat * Nat.pow 2 52 + m

/-- The number of decimal digits of a whole number. -/
def decimalLength (n : Nat) : Nat := (Nat.toDigits 10 n).length

/-- The order number of the magnitude nearest to `digits · 10 ^ exp`. Decimals far below the
smallest double and far above the largest are decided by their length alone. -/
def nearestDecimal (digits : Nat) (exp : Int) : Nat :=
  let places := (decimalLength digits : Int) + exp
  if digits = 0 ∨ places < -330 then 0
  else if 310 < places then 2047 * Nat.pow 2 52
  else if 0 ≤ exp then nearestMagnitude (digits * Nat.pow 10 exp.toNat) 1
  else nearestMagnitude digits (Nat.pow 10 (-exp).toNat)

/-- The double nearest to the decimal `± digits · 10 ^ exp`. -/
def ofDecimal? (negative : Bool) (digits : Nat) (exp : Int) : Option Double :=
  let n := nearestDecimal digits exp
  if h : n < 2047 * Nat.pow 2 52 then some ⟨negative, n, h⟩ else none

end Double

end ReleaseControl
