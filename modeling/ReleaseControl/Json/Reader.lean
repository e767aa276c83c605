import ReleaseControl.Json.Basic

/-!
# Reading JSON text

The reader accepts exactly the JSON grammar, with blanks between tokens. A whole number that fits
in 64 bits stays whole, every other number becomes the nearest double, and one beyond the largest
double is refused.

* `Json.read?`: the value of a whole text, objects as written.
-/

namespace ReleaseControl

namespace Json

/-- Drops the blanks that JSON allows between tokens. -/
def skipSpace (s : List Char) : List Char :=
  s.dropWhile fun c => c == ' ' || c == '\t' || c == '\n' || c == '\r'

/-- The value of a hexadecimal digit of either case. -/
def hexValue? (c : Char) : Option Nat :=
  if c.isDigit then some (c.toNat - '0'.toNat)
  else if 'a' ≤ c ∧ c ≤ 'f' then some (c.toNat - 'a'.toNat + 10)
  else if 'A' ≤ c ∧ c ≤ 'F' then some (c.toNat - 'A'.toNat + 10)
  else none

def hexUnit? (a b c d : Char) : Option Nat := do
  let a ← hexValue? a
  let b ← hexValue? b
  let c ← hexValue? c
  let d ← hexValue? d
  return ((a * 16 + b) * 16 + c) * 16 + d

/-- The character that a letter after a backslash stands for. -/
def shortEscape? : Char → Option Char
  | '"' => some '"'
  | '\\' => some '\\'
  | '/' => some '/'
  | 'b' => some '\x08'
  | 'f' => some '\x0c'
  | 'n' => some '\n'
  | 'r' => some '\r'
  | 't' => some '\t'
  | _ => none

/-- The character of one code unit, or of a high unit and the low unit that has to follow it. -/
def unitChar? (unit : Nat) (rest : List Char) : Option (Char × List Char) :=
  if 0xD800 ≤ unit ∧ unit < 0xDC00 then
    match rest with
    | '\\' :: 'u' :: a :: b :: c :: d :: rest => do
      let low ← hexUnit? a b c d
      if 0xDC00 ≤ low ∧ low < 0xE000 then
        some (Char.ofNat (0x10000 + (unit - 0xD800) * 0x400 + (low - 0xDC00)), rest)
      else none
    | _ => none
  else if 0xDC00 ≤ unit ∧ unit < 0xE000 then none
  else some (Char.ofNat unit, rest)

/-- One character of a string literal, escaped or not, and what follows it. -/
def takeChar? : List Char → Option (Char × List Char)
  | '\\' :: 'u' :: a :: b :: c :: d :: rest => do unitChar? (← hexUnit? a b c d) rest
  | '\\' :: c :: rest => (shortEscape? c).map fun e => (e, rest)
  | c :: rest => if c.toNat < 0x20 ∨ c = '"' ∨ c = '\\' then none else some (c, rest)
  | [] => none

theorem length_of_unitChar? {unit : Nat} {s rest : List Char} {c : Char}
    (h : unitChar? unit s = some (c, rest)) : rest.length ≤ s.length := by
  unfold unitChar? at h
  split at h
  · split at h
    · simp only [Option.bind_eq_bind, Option.bind_eq_some_iff] at h
      obtain ⟨low, -, h⟩ := h
      split at h
      · simp only [Option.some.injEq, Prod.mk.injEq] at h
        simp only [← h.2, List.length_cons]
        omega
      · simp at h
    · simp at h
  · split at h
    · simp at h
    · simp only [Option.some.injEq, Prod.mk.injEq] at h
      simp [h.2]

/-- Taking a character uses up some of the text. -/
theorem length_of_takeChar? {s rest : List Char} {c : Char}
    (h : takeChar? s = some (c, rest)) : rest.length < s.length := by
  unfold takeChar? at h
  split at h
  · simp only [Option.bind_eq_bind, Option.bind_eq_some_iff] at h
    obtain ⟨unit, -, h⟩ := h
    have := length_of_unitChar? h
    simp only [List.length_cons]
    omega
  · simp only [Option.map_eq_some_iff, Prod.mk.injEq] at h
    obtain ⟨-, -, -, rfl⟩ := h
    simp only [List.length_cons]
    omega
  · split at h
    · simp at h
    · simp only [Option.some.injEq, Prod.mk.injEq] at h
      simp [← h.2]
  · simp at h

/-- The characters of a string literal up to its closing quote, and what follows the quote. -/
def takeString? (s : List Char) : Option (List Char × List Char) :=
  match s with
  | '"' :: rest => some ([], rest)
  | s =>
    match h : takeChar? s with
    | some (c, rest) =>
      have := length_of_takeChar? h
      (takeString? rest).map fun (cs, rest) => (c :: cs, rest)
    | none => none
termination_by s.length

/-- The digits in front of a text, and the rest. -/
def spanDigits (s : List Char) : List Char × List Char :=
  (s.takeWhile Char.isDigit, s.dropWhile Char.isDigit)

/-- The whole number that decimal digits write. -/
def digitsValue (digits : List Char) : Nat :=
  digits.foldl (fun n c => 10 * n + (c.toNat - '0'.toNat)) 0

/-- The digits after a decimal point, none of them when there is no point. -/
def takeFraction? : List Char → Option (List Char × List Char)
  | '.' :: rest =>
    match spanDigits rest with
    | ([], _) => none
    | (digits, rest) => some (digits, rest)
  | rest => some ([], rest)

/-- The exponent of a number, none when the number has none. -/
def takeExponent? : List Char → Option (Option Int × List Char)
  | [] => some (none, [])
  | c :: rest =>
    if c = 'e' ∨ c = 'E' then
      let (negative, rest) := match rest with
        | '-' :: rest => (true, rest)
        | '+' :: rest => (false, rest)
        | rest => (false, rest)
      match spanDigits rest with
      | ([], _) => none
      | (digits, rest) =>
        let e : Int := digitsValue digits
        some (some (if negative then -e else e), rest)
    else some (none, c :: rest)

/-- The whole number of digits behind a sign, if it fits in 64 bits; minus zero is none. -/
def wholeOf? (negative : Bool) (digits : List Char) : Option Whole :=
  let n := digitsValue digits
  if negative then if n = 0 then none else Whole.ofInt? (-n) else Whole.ofInt? n

/-- The number that a literal without its sign writes. Only a literal without point and exponent
stays a whole number. -/
def numberOf? (negative : Bool) (whole fraction : List Char) (exp : Option Int) : Option Json :=
  match if fraction.isEmpty ∧ exp.isNone then wholeOf? negative whole else none with
  | some n => some (.int n)
  | none =>
    (Double.ofDecimal? negative (digitsValue (whole ++ fraction))
      (exp.getD 0 - fraction.length)).map .double

/-- A number literal and what follows it. -/
def takeNumber? (s : List Char) : Option (Json × List Char) := do
  let (negative, s) := match s with
    | '-' :: rest => (true, rest)
    | s => (false, s)
  let (whole, s) := spanDigits s
  if whole.isEmpty ∨ (whole.head? = some '0' ∧ whole.length ≠ 1) then none
  else
    let (fraction, s) ← takeFraction? s
    let (exp, s) ← takeExponent? s
    let number ← numberOf? negative whole fraction exp
    return (number, s)

mutual

/-- A value and what follows it; `fuel` bounds the nesting and the number of items. -/
def takeValue? (fuel : Nat) (s : List Char) : Option (Json × List Char) :=
  match fuel with
  | 0 => none
  | fuel + 1 =>
    match skipSpace s with
    | 'n' :: 'u' :: 'l' :: 'l' :: rest => some (.null, rest)
    | 't' :: 'r' :: 'u' :: 'e' :: rest => some (.bool true, rest)
    | 'f' :: 'a' :: 'l' :: 's' :: 'e' :: rest => some (.bool false, rest)
    | '"' :: rest => (takeString? rest).map fun (cs, rest) => (.str (String.ofList cs), rest)
    | '[' :: rest =>
      match skipSpace rest with
      | ']' :: rest => some (.arr [], rest)
      | rest => (takeItems? fuel rest).map fun (items, rest) => (.arr items, rest)
    | '{' :: rest =>
      match skipSpace rest with
      | '}' :: rest => some (.obj [], rest)
      | rest => (takeEntries? fuel rest).map fun (entries, rest) => (.obj entries, rest)
    | s => takeNumber? s

/-- The items of an array up to its closing bracket, at least one. -/
def takeItems? (fuel : Nat) (s : List Char) : Option (List Json × List Char) :=
  match fuel with
  | 0 => none
  | fuel + 1 => do
    let (v, s) ← takeValue? fuel s
    match skipSpace s with
    | ']' :: rest => return ([v], rest)
    | ',' :: rest =>
      let (items, rest) ← takeItems? fuel rest
      return (v :: items, rest)
    | _ => none

/-- The entries of an object up to its closing brace, at least one. -/
def takeEntries? (fuel : Nat) (s : List Char) : Option (List (String × Json) × List Char) :=
  match fuel with
  | 0 => none
  | fuel + 1 =>
    match skipSpace s with
    | '"' :: s => do
      let (k, s) ← takeString? s
      match skipSpace s with
      | ':' :: s =>
        let (v, s) ← takeValue? fuel s
        match skipSpace s with
        | '}' :: rest => return ([(String.ofList k, v)], rest)
        | ',' :: rest =>
          let (entries, rest) ← takeEntries? fuel rest
          return ((String.ofList k, v) :: entries, rest)
        | _ => none
      | _ => none
    | _ => none

end

/-- The value that a text writes, objects with their entries as written; none when the text is
not JSON. -/
def read? (text : String) : Option Json :=
  let s := text.toList
  match takeValue? (2 * s.length + 2) s with
  | some (v, rest) => if (skipSpace rest).isEmpty then some v else none
  | none => none

end Json

end ReleaseControl
