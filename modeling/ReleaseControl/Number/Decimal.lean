import ReleaseControl.Number.Double

/-!
# Decimal text of doubles

A double prints with the fewest digits that read back to it. Among the decimals of that many
digits the one nearest to the double is taken, an exact tie going to the even last digit.

* `Double.shortest`: those digits, with the power of ten of the last one.
* `Double.chars`: the text, plain from 0.00001 up to but not including 10¹⁶ and with an exponent
  otherwise.
-/

namespace ReleaseControl

namespace Double

/-- The `k` with `10 ^ (k - 1) ≤ num / den < 10 ^ k`, for positive `num` and `den`. -/
def decimalOrder (num den : Nat) : Int :=
  let k : Int := (decimalLength num : Int) - decimalLength den
  if powLe 10 k num den then k + 1 else k

/-- `num / den` counted in units of `10 ^ exp`, as a quotient of whole numbers. -/
def inUnits (num den : Nat) (exp : Int) : Nat × Nat :=
  if 0 ≤ exp then (num, den * Nat.pow 10 exp.toNat)
  else (num * Nat.pow 10 (-exp).toNat, den)

/-- Whether the decimal `digits · 10 ^ exp` reads back to the magnitude of `x`. -/
def readsBack (x : Double) (digits : Nat) (exp : Int) : Bool :=
  nearestDecimal digits exp = x.magnitude

/-- The decimal counted in units of `10 ^ exp` that reads back to `x` and is nearest to it, among
the two neighbours of `x`. -/
def neighbour? (x : Double) (exp : Int) : Option Nat :=
  let (num, den) := inUnits x.ratio.1 x.ratio.2 exp
  let low := num / den
  match x.readsBack low exp, x.readsBack (low + 1) exp with
  | true, true => some (roundHalfEven num den)
  | true, false => some low
  | false, true => some (low + 1)
  | false, false => none

/-- The exact decimal of `x`: a whole number, or a fraction whose denominator is a power of two. -/
def exact (x : Double) : Nat × Int :=
  if 0 ≤ x.exponent then (x.significand * Nat.pow 2 x.exponent.toNat, 0)
  else (x.significand * Nat.pow 5 (-x.exponent).toNat, x.exponent)

/-- The decimal of `count` digits that reads back to `x`, as its digits and the power of ten of
the last one. -/
def withDigits? (x : Double) (count : Nat) : Option (Nat × Int) :=
  let exp := decimalOrder x.ratio.1 x.ratio.2 - count
  (x.neighbour? exp).map fun digits => (digits, exp)

/-- The decimal with the fewest digits that reads back to `x`. -/
def shortest (x : Double) : Nat × Int :=
  ((List.range' 1 17).findSome? x.withDigits?).getD x.exact

/-- Zeros at the end of the digits moved into the power of ten. -/
def stripZeros : List Char → Int → List Char × Int
  | digits, exp =>
    let rest := digits.reverse.dropWhile (· == '0')
    (rest.reverse, exp + (digits.length - rest.length : Nat))

/-- A sign and the digits of a whole number. -/
def exponentChars (e : Int) : List Char :=
  (if e < 0 then '-' else '+') :: Nat.toDigits 10 e.natAbs

/-- Digits laid out around a point that stands behind the first `point` of them. -/
def layout (digits : List Char) (point : Int) : List Char :=
  if -5 < point ∧ point ≤ 16 then
    if point ≤ 0 then
      '0' :: '.' :: (List.replicate (-point).toNat '0' ++ digits)
    else if (digits.length : Int) ≤ point then
      digits ++ List.replicate (point.toNat - digits.length) '0' ++ ['.', '0']
    else
      digits.take point.toNat ++ '.' :: digits.drop point.toNat
  else
    match digits with
    | [] => []
    | [d] => d :: 'e' :: exponentChars (point - 1)
    | d :: rest => d :: '.' :: (rest ++ 'e' :: exponentChars (point - 1))

/-- The text of the magnitude of a double. -/
def magnitudeChars (x : Double) : List Char :=
  if x.magnitude = 0 then ['0', '.', '0']
  else
    let (d, exp) := x.shortest
    let (digits, exp) := stripZeros (Nat.toDigits 10 d) exp
    layout digits (digits.length + exp)

def chars (x : Double) : List Char :=
  if x.negative then '-' :: x.magnitudeChars else x.magnitudeChars

end Double

end ReleaseControl
