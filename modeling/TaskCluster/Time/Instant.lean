/-!
# Points in time

An `Instant` is a point in the supported calendar, to the nanosecond; a leap second is the second
before it with more than a full second of nanoseconds. A `ClockTime` is what a clock shows: whole
milliseconds since the epoch. `Instant.millis` cuts an instant down to milliseconds, and
`ClockTime.ofMillis?` is its inverse within the calendar.
-/

namespace TaskCluster

/-- The first second of the year -262143. -/
def minSecond : Int := -8334601228800

/-- The last second of the year 262142. -/
def maxSecond : Int := 8210266876799

/-- The nanoseconds of a second. -/
def nanosPerSecond : Nat := 1000000000

/-- The nanoseconds of a millisecond. -/
def nanosPerMilli : Nat := 1000000

/-- A point in time, in seconds since the epoch and nanoseconds. -/
structure Instant where
  seconds : Int
  nanos : Nat
  min_le : minSecond ≤ seconds
  le_max : seconds ≤ maxSecond
  nanos_lt : nanos < 2 * nanosPerSecond
deriving DecidableEq

/-- A clock reading: whole milliseconds since the epoch. -/
structure ClockTime where
  millis : Int
  min_le : minSecond * 1000 ≤ millis
  le_max : millis ≤ maxSecond * 1000 + 999
deriving DecidableEq

namespace Instant

/-- The point in time, if the seconds lie in the calendar. -/
def mk? (seconds : Int) (nanos : Nat) : Option Instant :=
  if h : (minSecond ≤ seconds ∧ seconds ≤ maxSecond) ∧ nanos < 2 * nanosPerSecond then
    some ⟨seconds, nanos, h.1.1, h.1.2, h.2⟩
  else none

/-- Whole milliseconds since the epoch, rounded down. A leap second counts as the next second. -/
def millis (t : Instant) : Int := t.seconds * 1000 + (t.nanos / nanosPerMilli : Nat)

/-- Is the instant no later? A leap second comes before the next second. -/
def le (a b : Instant) : Bool :=
  a.seconds < b.seconds || (a.seconds == b.seconds && a.nanos ≤ b.nanos)

/-- Is the instant earlier? -/
def lt (a b : Instant) : Bool := !b.le a

/-- The second of the day, from 0 to 86399. -/
def secondOfDay (t : Instant) : Int := t.seconds % 86400

/-- Does the instant lie in a leap second? -/
def isLeap (t : Instant) : Bool := nanosPerSecond ≤ t.nanos

/-- The leap second that the clock times of two instants have between them: an instant in a leap
second is one second further from a later time of day. -/
def leapBetween (later earlier : Instant) : Int :=
  if earlier.secondOfDay < later.secondOfDay ∧ earlier.isLeap then 1
  else if later.secondOfDay < earlier.secondOfDay ∧ later.isLeap then -1
  else 0

/-- The nanoseconds from an earlier instant on, negative if it is not earlier. -/
def nanosSince (later earlier : Instant) : Int :=
  (later.seconds - earlier.seconds + leapBetween later earlier) * nanosPerSecond +
    ((later.nanos : Int) - earlier.nanos)

/-- The whole milliseconds from an earlier instant on, rounded toward zero. -/
def millisSince (later earlier : Instant) : Int :=
  (nanosSince later earlier).tdiv nanosPerMilli

end Instant

namespace ClockTime

/-- The clock reading, if it lies in the calendar. -/
def ofMillis? (millis : Int) : Option ClockTime :=
  if h : minSecond * 1000 ≤ millis ∧ millis ≤ maxSecond * 1000 + 999 then
    some ⟨millis, h.1, h.2⟩
  else none

/-- The start of the epoch. -/
def epoch : ClockTime := ⟨0, by decide, by decide⟩

/-- The clock reading next to a number of milliseconds in the calendar. -/
def clamp (millis : Int) : ClockTime :=
  if h : minSecond * 1000 ≤ millis then
    if h' : millis ≤ maxSecond * 1000 + 999 then ⟨millis, h, h'⟩
    else ⟨maxSecond * 1000 + 999, by decide, by decide⟩
  else ⟨minSecond * 1000, by decide, by decide⟩

/-- The point in time that the clock shows. -/
def toInstant (t : ClockTime) : Instant where
  seconds := t.millis / 1000
  nanos := (t.millis % 1000).toNat * nanosPerMilli
  min_le := by have := t.min_le; simp only [minSecond] at *; omega
  le_max := by have := t.le_max; simp only [maxSecond] at *; omega
  nanos_lt := by simp only [nanosPerMilli, nanosPerSecond]; omega

/-- The reading later by some milliseconds; the clock stops at the end of the calendar. -/
def advance (t : ClockTime) (by_ : Nat) : ClockTime := clamp (t.millis + by_)

theorem millis_toInstant (t : ClockTime) : t.toInstant.millis = t.millis := by
  simp only [toInstant, Instant.millis, nanosPerMilli]
  omega

theorem ofMillis?_millis (t : ClockTime) : ofMillis? t.millis = some t := by
  simp [ofMillis?, t.min_le, t.le_max]

theorem ofMillis?_eq_some_iff {millis : Int} {t : ClockTime} :
    ofMillis? millis = some t ↔ t.millis = millis := by
  constructor
  · intro h
    unfold ofMillis? at h
    split at h
    · obtain rfl := Option.some.inj h
      rfl
    · cases h
  · rintro rfl
    exact ofMillis?_millis t

end ClockTime

end TaskCluster
