import ReleaseControl.Json.Reader

/-!
# What plain texts stand for

A plain text that nothing else decides about stands for nothing, for a truth value, for a number, or
for itself.

* `isNullText`, `truthOfText?`, `wholeOfText?`, `doubleOfText?`: the four readings.
* `freeOfText?`: the first of them that applies.
-/

namespace ReleaseControl.Yaml

def isNullText (s : String) : Bool := ["null", "Null", "NULL", "~"].contains s

def truthOfText? (s : String) : Option Bool :=
  if ["true", "True", "TRUE"].contains s then some true
  else if ["false", "False", "FALSE"].contains s then some false
  else none

/-! ## Whole numbers -/

/-- The digits of a text behind its sign. -/
def unsigned : List Char → List Char
  | '-' :: rest => rest
  | '+' :: rest => rest
  | cs => cs

/-- Whether a text is a number of several digits with a zero in front, which is no number here. -/
def hasLeadingZero (cs : List Char) : Bool :=
  match unsigned cs with
  | '0' :: c :: rest => (c :: rest).all Char.isDigit
  | _ => false

/-- The number that digits of a radix write. -/
def radixValue? (radix : Nat) (digits : List Char) : Option Nat :=
  if digits.isEmpty then none
  else
    digits.foldlM (fun n c => do
      let d ← Json.hexValue? c
      if d < radix then some (radix * n + d) else none) 0

/-- The radix of a letter behind a zero. -/
def radix? : Char → Option Nat
  | 'x' => some 16
  | 'o' => some 8
  | 'b' => some 2
  | _ => none

/-- The whole number without a sign that a text writes: in decimal, or in the radix of a letter
behind a zero. -/
def magnitude? (cs : List Char) : Option Nat :=
  match cs with
  | '0' :: c :: rest =>
    match radix? c with
    | some radix => radixValue? radix rest
    | none => if hasLeadingZero cs then none else radixValue? 10 cs
  | cs => radixValue? 10 cs

/-- The whole number that a text writes, with or without one sign. -/
def wholeOfText? (s : String) : Option Int :=
  match s.toList with
  | '-' :: rest => (magnitude? rest).map fun n => -(n : Int)
  | '+' :: rest => (magnitude? rest).map Int.ofNat
  | cs => (magnitude? cs).map Int.ofNat

/-! ## Doubles -/

/-- A double, or one of the values that JSON has no text for. -/
inductive Real where
  | finite (x : Double)
  | special

/-- The double of digits with an optional point and exponent. -/
def decimal? (negative : Bool) (cs : List Char) : Option Double := do
  let (whole, cs) := Json.spanDigits cs
  let (fraction, cs) := match cs with
    | '.' :: rest => Json.spanDigits rest
    | cs => ([], cs)
  if whole.isEmpty ∧ fraction.isEmpty then none
  else
    let (exp, cs) ← Json.takeExponent? cs
    if cs.isEmpty then
      Double.ofDecimal? negative (Json.digitsValue (whole ++ fraction))
        (exp.getD 0 - fraction.length)
    else none

def doubleOfText? (s : String) : Option Real :=
  if [".inf", ".Inf", ".INF", "+.inf", "+.Inf", "+.INF", "-.inf", "-.Inf", "-.INF", ".nan", ".NaN",
    ".NAN"].contains s then some .special
  else
    match s.toList with
    | '-' :: rest => (decimal? true rest).map .finite
    | '+' :: rest => (decimal? false rest).map .finite
    | cs => (decimal? false cs).map .finite

/-! ## Free values -/

/-- The whole numbers of 128 bits, signed or unsigned. -/
def inWideRange (n : Int) : Bool :=
  -0x80000000000000000000000000000000 ≤ n && n < 0x100000000000000000000000000000000

def Real.json : Real → Json
  | .finite x => .double x
  | .special => .null

/-- The free value of a whole number: none for one that needs more than 64 bits. -/
def wholeJson? (n : Int) : Option Json := (Whole.ofInt? n).map .int

/-- The free value of a plain text, none for a whole number that needs more than 64 but no more than
128 bits. -/
def freeOfText? (s : String) : Option Json :=
  if s = "" ∨ isNullText s = true then some .null
  else
    match truthOfText? s, (wholeOfText? s).filter inWideRange, doubleOfText? s with
    | some b, _, _ => some (.bool b)
    | none, some n, _ => wholeJson? n
    | none, none, some x => if hasLeadingZero s.toList then some (.str s) else some x.json
    | none, none, none => some (.str s)

/-- Whether a plain text stands for something else than itself, or looks as if it did. -/
def isAmbiguous (s : String) : Bool :=
  s == "" || isNullText s || (truthOfText? s).isSome
    || ((wholeOfText? s).filter inWideRange).isSome || (doubleOfText? s).isSome
    || hasLeadingZero s.toList

end ReleaseControl.Yaml
