import ReleaseControl.Codec.Basic
import ReleaseControl.Instant.Basic
import ReleaseControl.Json.Reader
import ReleaseControl.Text.Blank

/-!
# Time stamps

RFC 3339 text of instants. Writing gives UTC with as few of 0, 3, 6 or 9 digits of a second as
lose nothing. Reading is relaxed: numbers may be short, blanks may stand between the parts, a year
may have a sign and more digits, and a blank may stand for the `T`.

* `Instant.recordText`, `Instant.statusText`: the text with `Z` and with `+00:00`.
* `Instant.ofText`: the instant of a text, or why there is none.
-/

namespace ReleaseControl

/-- Why a text is no point in time. -/
inductive TimeError where
  | tooShort
  | invalid
  | outOfRange
  | trailing
  | impossible
deriving DecidableEq

def TimeError.message : TimeError → String
  | .tooShort => "premature end of input"
  | .invalid => "input contains invalid characters"
  | .outOfRange => "input is out of range"
  | .trailing => "trailing input"
  | .impossible => "no possible date and time matching input"

namespace Instant

/-! ## Writing -/

/-- The digits of a number, with zeros in front up to a width. -/
def padded (width n : Nat) : List Char :=
  let digits := Nat.toDigits 10 n
  List.replicate (width - digits.length) '0' ++ digits

/-- A year: four digits, and a sign where four digits do not hold it. -/
def yearChars (year : Int) : List Char :=
  if 0 ≤ year ∧ year ≤ 9999 then padded 4 year.toNat
  else (if year < 0 then '-' else '+') :: padded 4 year.natAbs

/-- The fraction of a second, in as few groups of three digits as lose nothing. -/
def fractionChars (nano : Nat) : List Char :=
  if nano = 0 then []
  else if nano % 1000000 = 0 then '.' :: padded 3 (nano / 1000000)
  else if nano % 1000 = 0 then '.' :: padded 6 (nano / 1000)
  else '.' :: padded 9 nano

/-- Date and time up to the whole second. -/
def secondChars (t : Instant) : List Char :=
  yearChars t.date.year ++ '-' :: padded 2 t.date.month ++ '-' :: padded 2 t.date.day
    ++ 'T' :: padded 2 t.hour ++ ':' :: padded 2 t.minute ++ ':' :: padded 2 t.second

/-- The text of an instant in a release record. -/
def recordText (t : Instant) : String :=
  String.ofList (t.secondChars ++ fractionChars t.nano ++ ['Z'])

/-- The text of an instant in a status. -/
def statusText (t : Instant) : String :=
  String.ofList (t.secondChars ++ fractionChars t.nano ++ ['+', '0', '0', ':', '0', '0'])

/-- The text of an instant in an event: always six digits of a second. -/
def eventText (t : Instant) : String :=
  String.ofList (t.secondChars ++ '.' :: padded 6 (t.nano / 1000) ++ ['Z'])

/-! ## Reading -/

/-- A number of up to `width` digits, and what follows it. -/
def takeDigits (width : Nat) (s : List Char) : Except TimeError (Nat × List Char) :=
  let digits := (s.take width).takeWhile Char.isDigit
  if s.isEmpty then .error .tooShort
  else if digits.isEmpty then .error .invalid
  else if 0x8000000000000000 ≤ Json.digitsValue digits then .error .outOfRange
  else .ok (Json.digitsValue digits, s.drop digits.length)

/-- A number of up to two digits between two bounds, with blanks in front. -/
def takePart (low high : Nat) (s : List Char) : Except TimeError (Nat × List Char) := do
  let (n, s) ← takeDigits 2 (dropBlank s)
  if low ≤ n ∧ n ≤ high then return (n, s) else throw .outOfRange

/-- A year: up to four digits, or a sign and any number of digits. -/
def takeYear (s : List Char) : Except TimeError (Int × List Char) := do
  let (year, s) ← match dropBlank s with
    | '-' :: rest => (takeDigits rest.length rest).map fun (n, s) => (-(n : Int), s)
    | '+' :: rest => (takeDigits rest.length rest).map fun (n, s) => ((n : Int), s)
    | s => (takeDigits 4 s).map fun (n, s) => ((n : Int), s)
  if -0x80000000 ≤ year ∧ year < 0x80000000 then return (year, s) else throw .outOfRange

/-- What follows a separator that may have blanks in front. -/
def takeMark (mark : Char) (s : List Char) : Except TimeError (List Char) :=
  match dropBlank s with
  | [] => .error .tooShort
  | c :: rest => if c = mark then .ok rest else .error .invalid

/-- The nanoseconds after a decimal point; digits beyond the ninth are dropped. -/
def takeNano (s : List Char) : Except TimeError (Nat × List Char) :=
  match s with
  | '.' :: s => do
    let (n, rest) ← takeDigits 9 s
    let width := s.length - rest.length
    return (n * Nat.pow 10 (9 - width), rest.dropWhile Char.isDigit)
  | s => .ok (0, s)

/-- Two digits, the first of them up to `high`. -/
def takePair (high : Char) : List Char → Except TimeError (Nat × List Char)
  | a :: b :: rest =>
    if a.isDigit ∧ b.isDigit then
      if a ≤ high then .ok (Json.digitsValue [a, b], rest) else .error .outOfRange
    else .error .invalid
  | [a] => if a.utf8Size = 1 then .error .tooShort else .error .invalid
  | [] => .error .tooShort

/-- Hours and minutes of an offset, with blanks and colons between them. -/
def takeClock (s : List Char) : Except TimeError (Int × List Char) := do
  let (hours, s) ← takePair '9' s
  let (minutes, s) ← takePair '5' (s.dropWhile fun c => c == ':' || isBlank c)
  return (hours * 60 + minutes, s)

/-- The offset from UTC in minutes, and what follows it. -/
def takeOffset : List Char → Except TimeError (Int × List Char)
  | [] => .error .tooShort
  | a :: b :: c :: rest =>
    if a.toUpper = 'U' ∧ b.toUpper = 'T' ∧ c.toUpper = 'C' then .ok (0, rest)
    else takeSigned a (b :: c :: rest)
  | a :: rest => takeSigned a rest
where
  /-- An offset that begins with the given character. -/
  takeSigned (sign : Char) (s : List Char) : Except TimeError (Int × List Char) :=
    if sign = 'Z' ∨ sign = 'z' then .ok (0, s)
    else if sign = '+' then takeClock s
    else if sign = '-' ∨ sign = '\u2212' then
      (takeClock s).map fun (minutes, s) => (-minutes, s)
    else .error .invalid

/-- What follows the mark between date and time. -/
def takeTimeMark : List Char → Except TimeError (List Char)
  | [] => .error .tooShort
  | c :: rest => if c = 'T' ∨ c = 't' ∨ c = ' ' then .ok rest else .error .invalid

/-- A number as a part of an instant that has `size` values. -/
def part {size : Nat} (pos : 0 < size) (n : Nat) : Fin size := ⟨n % size, Nat.mod_lt n pos⟩

def ofChars (s : List Char) : Except TimeError Instant := do
  let (year, s) ← takeYear s
  let s ← takeMark '-' s
  let (month, s) ← takePart 1 12 s
  let s ← takeMark '-' s
  let (day, s) ← takePart 1 31 s
  let s ← takeTimeMark s
  let (hour, s) ← takePart 0 23 s
  let s ← takeMark ':' s
  let (minute, s) ← takePart 0 59 s
  let s ← takeMark ':' s
  let (second, s) ← takePart 0 60 s
  let (nano, s) ← takeNano s
  let (offset, s) ← takeOffset (dropBlank s)
  if (dropBlank s).isEmpty then
    match Date.of? year month day with
    | none => throw .outOfRange
    | some date =>
      if offset ≤ -1440 ∨ 1440 ≤ offset then throw .outOfRange
      else
        let shown : Instant :=
          ⟨date, part (by decide) hour, part (by decide) minute, part (by decide) second,
            part (by decide) nano⟩
        match ofLocal? shown offset with
        | some t => return t
        | none => throw .impossible
  else throw .trailing

def ofText (s : String) : Except TimeError Instant := ofChars s.toList

end Instant

def Codec.instant : Codec Instant where
  shape := .text
  encode t := .str t.recordText
  decode
    | .str s =>
      match Instant.ofText s with
      | .ok t => .ok t
      | .error e => .error (.malformed e.message)
    | v => .error (.invalidType v "an RFC 3339 formatted date and time string")

end ReleaseControl
