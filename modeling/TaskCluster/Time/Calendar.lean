import TaskCluster.Time.Instant

/-!
# The calendar

Days since the epoch as dates of the Gregorian calendar, extended to all years, and back.
-/

namespace TaskCluster

/-- A date; the year before year 1 is year 0. -/
structure Date where
  year : Int
  month : Nat
  day : Nat
deriving DecidableEq, Repr

namespace Date

def isLeapYear (year : Int) : Bool :=
  year % 4 == 0 && (year % 100 != 0 || year % 400 == 0)

def daysInMonth (year : Int) (month : Nat) : Nat :=
  if month = 2 then if isLeapYear year then 29 else 28
  else if month = 4 ∨ month = 6 ∨ month = 9 ∨ month = 11 then 30
  else 31

/-- Does the date exist? -/
def isValid (d : Date) : Bool :=
  1 ≤ d.month && d.month ≤ 12 && 1 ≤ d.day && d.day ≤ daysInMonth d.year d.month

/-- The days of a year that begins in March, before its month `m`, counted from zero. -/
def daysBeforeMonth (m : Nat) : Nat := (153 * m + 2) / 5

/-- Days since the epoch. Years are counted from March on, so that a leap day ends its year. -/
def toDays (d : Date) : Int :=
  let year := if d.month ≤ 2 then d.year - 1 else d.year
  let month := (d.month + 9) % 12
  let era := year / 400
  let yearOfEra := year % 400
  let dayOfYear : Int := daysBeforeMonth month + d.day - 1
  era * 146097 + (yearOfEra * 365 + yearOfEra / 4 - yearOfEra / 100 + dayOfYear) - 719468

/-- The date of a day since the epoch. -/
def ofDays (days : Int) : Date :=
  let shifted := days + 719468
  let era := shifted / 146097
  let dayOfEra := (shifted % 146097).toNat
  let yearOfEra := (dayOfEra - dayOfEra / 1460 + dayOfEra / 36524 - dayOfEra / 146096) / 365
  let dayOfYear := dayOfEra - (365 * yearOfEra + yearOfEra / 4 - yearOfEra / 100)
  let month := (5 * dayOfYear + 2) / 153
  let day := dayOfYear - daysBeforeMonth month + 1
  let civilMonth := if month < 10 then month + 3 else month - 9
  let year := (yearOfEra : Int) + era * 400
  ⟨if civilMonth ≤ 2 then year + 1 else year, civilMonth, day⟩

end Date

/-- The date on which an instant lies. -/
def Instant.date (t : Instant) : Date := Date.ofDays (t.seconds / 86400)

/-- The hour, minute and second of an instant; a leap second has the second 60. -/
def Instant.timeOfDay (t : Instant) : Nat × Nat × Nat :=
  let s := t.secondOfDay.toNat
  (s / 3600, s / 60 % 60, s % 60 + (if t.isLeap then 1 else 0))

/-- The nanoseconds within the second. -/
def Instant.subsecond (t : Instant) : Nat := t.nanos % nanosPerSecond

end TaskCluster
