/-!
# Points in time

Points in time as UTC shows them: a date of the Gregorian calendar, carried on in both directions,
and a time of day to the nanosecond. A minute may have a second 60.

* `Date.next?`, `Date.prev?`: the neighbouring dates, within the years that are kept.
* `Instant.ofLocal?`: the instant that a local date and time shows at an offset from UTC.
* `Instant.ofUnix?`: the instant of a clock that counts from the start of the Unix calendar.
-/

namespace ReleaseControl

/-- The years that are kept. -/
def firstYear : Int := -262143

@[inherit_doc firstYear] def lastYear : Int := 262142

/-- Every fourth year is a leap year, but of the centuries only every fourth. -/
def isLeapYear (year : Int) : Bool := year % 4 == 0 && (year % 100 != 0 || year % 400 == 0)

/-- The number of days of a month. -/
def daysInMonth (year : Int) (month : Nat) : Nat :=
  if month = 2 then (if isLeapYear year then 29 else 28)
  else if month = 4 ∨ month = 6 ∨ month = 9 ∨ month = 11 then 30
  else 31

/-- The year, month and day exist and are kept. -/
def IsDate (year : Int) (month day : Nat) : Prop :=
  (firstYear ≤ year ∧ year ≤ lastYear) ∧ (1 ≤ month ∧ month ≤ 12) ∧
    (1 ≤ day ∧ day ≤ daysInMonth year month)

instance (year : Int) (month day : Nat) : Decidable (IsDate year month day) := by
  unfold IsDate; infer_instance

/-- A date of the Gregorian calendar. -/
structure Date where
  year : Int
  month : Nat
  day : Nat
  isDate : IsDate year month day
deriving DecidableEq

namespace Date

/-- The date of a year, month and day, if there is one. -/
def of? (year : Int) (month day : Nat) : Option Date :=
  if h : IsDate year month day then some ⟨year, month, day, h⟩ else none

/-- The day after, if it is kept. -/
def next? (d : Date) : Option Date :=
  if d.day < daysInMonth d.year d.month then of? d.year d.month (d.day + 1)
  else if d.month < 12 then of? d.year (d.month + 1) 1
  else of? (d.year + 1) 1 1

/-- The day before, if it is kept. -/
def prev? (d : Date) : Option Date :=
  if 1 < d.day then of? d.year d.month (d.day - 1)
  else if 1 < d.month then of? d.year (d.month - 1) (daysInMonth d.year (d.month - 1))
  else of? (d.year - 1) 12 31

/-- The date a number of days later, if it is kept. -/
def later? (d : Date) : Nat → Option Date
  | 0 => some d
  | n + 1 => d.next?.bind fun d => d.later? n

/-- The first day of the Unix calendar. -/
def epoch : Date := ⟨1970, 1, 1, by decide⟩

end Date

/-- A point in time: a date and a time of day in UTC. -/
structure Instant where
  date : Date
  hour : Fin 24
  minute : Fin 60
  second : Fin 61
  nano : Fin 1000000000
deriving DecidableEq

namespace Instant

instance : Inhabited Instant := ⟨⟨Date.epoch, 0, 0, 0, 0⟩⟩

/-- The instant of a local date and time at `offset` minutes east of UTC, if its date is kept. -/
def ofLocal? (shown : Instant) (offset : Int) : Option Instant := do
  let minutes := (shown.hour * 60 + shown.minute : Int) - offset
  let date ←
    if minutes < 0 then shown.date.prev?
    else if 1440 ≤ minutes then shown.date.next?
    else some shown.date
  let rest := (minutes % 1440).toNat
  return { shown with
    date := date
    hour := Fin.ofNat 24 (rest / 60)
    minute := Fin.ofNat 60 rest }

/-- The instant a number of nanoseconds after the start of the Unix calendar, if its date is
kept. -/
def ofUnix? (nanos : Nat) : Option Instant :=
  let seconds := nanos / 1000000000
  (Date.epoch.later? (seconds / 86400)).map fun date =>
    { date := date
      hour := Fin.ofNat 24 (seconds / 3600)
      minute := Fin.ofNat 60 (seconds / 60)
      second := Fin.ofNat 61 (seconds % 60)
      nano := Fin.ofNat 1000000000 nanos }

end Instant

end ReleaseControl
