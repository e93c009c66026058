import TaskCluster.Time.Instant

/-!
# Durations

A duration is a number of nanoseconds. Timers end on whole milliseconds, so `timerMillis` rounds up
and `millis` down.
-/

namespace TaskCluster

/-- A length of time in nanoseconds. -/
structure Duration where
  nanos : Nat
deriving DecidableEq, Repr

namespace Duration

def ofMillis (millis : Nat) : Duration := ⟨millis * nanosPerMilli⟩

def ofSeconds (seconds : Nat) : Duration := ⟨seconds * nanosPerSecond⟩

/-- The whole milliseconds of a duration. -/
def millis (d : Duration) : Nat := d.nanos / nanosPerMilli

/-- The milliseconds after which a timer of this duration has ended. -/
def timerMillis (d : Duration) : Nat := (d.nanos + (nanosPerMilli - 1)) / nanosPerMilli

/-- The greatest number of milliseconds that is compared with a clock. -/
def maxMillis : Int := Int64.maxValue.toInt

/-- The whole milliseconds of a duration, as they are compared with a clock. -/
def clockMillis (d : Duration) : Int := min (d.millis : Int) maxMillis

/-- The duration `factor` times over; none when its seconds leave 64 bits. -/
def times? (d : Duration) (factor : Nat) : Option Duration :=
  if d.nanos * factor < UInt64.size * nanosPerSecond then some ⟨d.nanos * factor⟩ else none

/-- One of `parts` equal parts, rounded down. -/
def part (d : Duration) (parts : Nat) : Duration := ⟨d.nanos / parts⟩

end Duration

end TaskCluster
