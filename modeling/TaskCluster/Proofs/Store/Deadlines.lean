import Mathlib
import TaskCluster.Proofs.Store.Sweep

/-!
# Two tests against the clock

A sweep asks whether a sign of life is too old, and a claim scan whether a cool-down is over. Both
compare whole milliseconds in 64 bits. Within the calendar no number on the way leaves these bits
(`Fits64`), so the comparisons are those of exact integers. And what is overdue, or has cooled down,
stays so as time goes on.

All this rests on times being numbers on one line. A leap second is not: it is the second before it
with more than a second of nanoseconds, so the milliseconds since the epoch fall back behind it, and
the time that has passed since then depends on the time of day. The clock of the program shows no
leap seconds. A time that is handed over may lie in one, and then either test can turn back
(`Record.turns_back_at_leap_seconds`).
-/

namespace TaskCluster

/-- The number fits 64 bits with a sign. -/
def Fits64 (n : Int) : Prop := Int64.minValue.toInt ≤ n ∧ n ≤ Int64.maxValue.toInt

theorem fits64_iff {n : Int} : Fits64 n ↔ -2 ^ 63 ≤ n ∧ n < 2 ^ 63 := by
  have hmin : Int64.minValue.toInt = -2 ^ 63 := by decide
  have hmax : Int64.maxValue.toInt = 2 ^ 63 - 1 := by decide
  rw [Fits64, hmin, hmax]
  omega

theorem Duration.clockMillis_eq (d : Duration) :
    d.clockMillis = min (d.millis : Int) (2 ^ 63 - 1) := by
  have hmax : maxMillis = 2 ^ 63 - 1 := by decide
  rw [clockMillis, hmax]

theorem Duration.fits64_clockMillis (d : Duration) : Fits64 d.clockMillis := by
  rw [fits64_iff, clockMillis_eq]
  omega

theorem Record.fits64_clampMillis (n : Int) : Fits64 (Record.clampMillis n) := by
  have hrange : Int64.minValue.toInt ≤ Int64.maxValue.toInt := by decide
  rw [Fits64, Record.clampMillis]
  omega

namespace Instant

/-! ### Times on one line -/

/-- The nanoseconds since the epoch. -/
def sinceEpoch (t : Instant) : Int := t.seconds * nanosPerSecond + t.nanos

variable {now later earlier : Instant}

theorem nanos_lt_of_not_isLeap (h : now.isLeap = false) : now.nanos < nanosPerSecond :=
  Nat.lt_of_not_le (of_decide_eq_false h)

theorem fits64_millis (t : Instant) : Fits64 t.millis := by
  have hmin := t.min_le
  have hmax := t.le_max
  have hnanos := t.nanos_lt
  rw [fits64_iff]
  simp only [millis, minSecond, maxSecond, nanosPerSecond, nanosPerMilli] at *
  omega

/-- Behind a time outside of leap seconds there are no fewer milliseconds. -/
theorem millis_le_of_le (h : now.le later = true) (hnow : now.isLeap = false) :
    now.millis ≤ later.millis := by
  have hnanos := nanos_lt_of_not_isLeap hnow
  rw [le_iff] at h
  simp only [millis, nanosPerSecond, nanosPerMilli] at *
  omega

theorem sinceEpoch_le_of_le (h : now.le later = true) (hnow : now.isLeap = false) :
    now.sinceEpoch ≤ later.sinceEpoch := by
  have hnanos := nanos_lt_of_not_isLeap hnow
  rw [le_iff] at h
  simp only [sinceEpoch, nanosPerSecond] at *
  omega

/-- Outside of leap seconds the time that has passed is a plain difference. -/
theorem nanosSince_eq (hlater : later.isLeap = false) (hearlier : earlier.isLeap = false) :
    later.nanosSince earlier = later.sinceEpoch - earlier.sinceEpoch := by
  have hleap : leapBetween later earlier = 0 := by simp [leapBetween, hlater, hearlier]
  rw [nanosSince, hleap, sinceEpoch, sinceEpoch]
  ring

theorem leapBetween_cases (later earlier : Instant) :
    leapBetween later earlier = 0 ∨ leapBetween later earlier = 1
      ∨ leapBetween later earlier = -1 := by
  unfold leapBetween
  split_ifs <;> simp

/-- No two times are further apart than 64 bits can count milliseconds. -/
theorem fits64_between (later earlier : Instant) :
    Fits64 ((later.seconds - earlier.seconds + leapBetween later earlier) * 1000)
      ∧ Fits64 (later.millisSince earlier) := by
  have hleap := leapBetween_cases later earlier
  have hlater := And.intro later.min_le later.le_max
  have hearlier := And.intro earlier.min_le earlier.le_max
  have hnanos := And.intro later.nanos_lt earlier.nanos_lt
  simp only [minSecond, maxSecond, nanosPerSecond] at hlater hearlier hnanos
  have hhigh : later.nanosSince earlier ≤ 2 ^ 62 * nanosPerMilli := by
    simp only [nanosSince, nanosPerSecond, nanosPerMilli]
    omega
  have hlow : -2 ^ 62 * nanosPerMilli ≤ later.nanosSince earlier := by
    simp only [nanosSince, nanosPerSecond, nanosPerMilli]
    omega
  have hmillis : -2 ^ 62 ≤ later.millisSince earlier ∧ later.millisSince earlier ≤ 2 ^ 62 :=
    ⟨Int.tdiv_le_tdiv (by decide) hlow, Int.tdiv_le_tdiv (by decide) hhigh⟩
  rw [fits64_iff, fits64_iff]
  omega

/-- The time that has passed since grows with the clock. -/
theorem millisSince_le_of_le (h : now.le later = true) (hnow : now.isLeap = false)
    (hlater : later.isLeap = false) (hearlier : earlier.isLeap = false) :
    now.millisSince earlier ≤ later.millisSince earlier := by
  have hle := sinceEpoch_le_of_le h hnow
  rw [millisSince, millisSince, nanosSince_eq hnow hearlier, nanosSince_eq hlater hearlier]
  exact Int.tdiv_le_tdiv (by decide) (by omega)

end Instant

namespace Record

/-! ### The two tests -/

variable {r : Record} {node : String} {policy : FailoverPolicy} {timeout : Duration}
  {now later finished : Instant}

/-- The task was started once at most, and not on the node. -/
def MovesAtOnce (r : Record) (node : String) : Prop := r.runCount ≤ 1 ∧ r.node ≠ some node

instance (r : Record) (node : String) : Decidable (r.MovesAtOnce node) :=
  inferInstanceAs (Decidable (_ ∧ _))

/-- A new task may be started. A task in failover may if it moves at once, or if its cool-down is
over, as far as the end of its last run is known. -/
theorem isRunnableNow_iff : r.isRunnableNow node policy now = true ↔ r.status = .new
    ∨ r.status = .failover ∧ (r.MovesAtOnce node
      ∨ ∀ t ∈ r.finishedAt, (policy.cooldown r.runCount).clockMillis ≤ now.millisSince t) := by
  unfold isRunnableNow MovesAtOnce
  cases r.status with
  | failover =>
    by_cases hmoves : r.runCount ≤ 1 ∧ r.node ≠ some node
    · simp [hmoves]
    · cases r.finishedAt <;> simp [hmoves]
  | _ => simp

/-- A run that is overdue stays overdue. -/
theorem isStale_of_le (h : now.le later = true) (hnow : now.isLeap = false)
    (hstale : r.isStale timeout now = true) : r.isStale timeout later = true := by
  have hmillis := Instant.millis_le_of_le h hnow
  rw [isStale_iff, Overdue] at *
  omega

/-- A task that may be started may be started later, if nobody starts it meanwhile. Only of a task
that had to cool down does this need times that are on one line. -/
theorem isRunnableNow_of_le (h : now.le later = true)
    (hline : r.status = .failover → ¬ r.MovesAtOnce node → ∀ t ∈ r.finishedAt,
      now.isLeap = false ∧ later.isLeap = false ∧ t.isLeap = false)
    (hrunnable : r.isRunnableNow node policy now = true) :
    r.isRunnableNow node policy later = true := by
  rw [isRunnableNow_iff] at *
  rcases hrunnable with hnew | ⟨hfailover, hmoves | hcooled⟩
  · exact .inl hnew
  · exact .inr ⟨hfailover, .inl hmoves⟩
  · by_cases hmoves : r.MovesAtOnce node
    · exact .inr ⟨hfailover, .inl hmoves⟩
    · refine .inr ⟨hfailover, .inr fun t ht => ?_⟩
      obtain ⟨hnow, hlater, hfinished⟩ := hline hfailover hmoves t ht
      exact (hcooled t ht).trans (Instant.millisSince_le_of_le h hnow hlater hfinished)

/-- A sweep gives up the runs that are overdue and not held by the node. -/
theorem checkHeartbeat_eq_failedOver_iff {ids : List String} :
    (r.checkHeartbeat node ids timeout now).1 = .failedOver
      ↔ r.status = .running ∧ ¬ r.HeldBy node ids ∧ r.isStale timeout now = true := by
  simp only [checkHeartbeat, HeldBy, List.contains_iff_mem]
  by_cases hrun : r.status = .running
  · simp only [r.changeStatus_failover node now hrun]
    split_ifs <;> simp_all
  · simp [hrun]

/-- **Two tests against the clock.** No number that either of them computes leaves 64 bits, and each
is the comparison of exact integers in whole milliseconds: a sign of life is overdue when it is
further back than the timeout, and a cool-down is over when that much time has passed since the end
of the last run, rounded toward zero. A run that is overdue stays overdue, unless it is now a leap
second. A task that may be started may be started at any later time, unless it had to cool down and
one of the three times is in a leap second. -/
theorem tests_exact_and_lasting (r : Record) (node : String) (ids : List String)
    (policy : FailoverPolicy) (timeout : Duration) (now later : Instant)
    (h : now.le later = true) :
    (Fits64 now.millis ∧ Fits64 timeout.clockMillis
        ∧ Fits64 (clampMillis (now.millis - timeout.clockMillis)))
      ∧ (r.isStale timeout now = true
        ↔ min (timeout.millis : Int) (2 ^ 63 - 1) < now.millis - r.heartbeat.toInt)
      ∧ ((r.checkHeartbeat node ids timeout now).1 = .failedOver
        ↔ r.status = .running ∧ ¬ r.HeldBy node ids ∧ r.isStale timeout now = true)
      ∧ (now.isLeap = false → r.isStale timeout now = true → r.isStale timeout later = true)
      ∧ (∀ finished, Fits64 ((now.seconds - finished.seconds + now.leapBetween finished) * 1000)
        ∧ Fits64 (now.millisSince finished)
        ∧ (r.status = .failover → r.finishedAt = some finished →
          ¬ (r.runCount ≤ 1 ∧ r.node ≠ some node) →
          (r.isRunnableNow node policy now = true
            ↔ min ((policy.cooldown r.runCount).millis : Int) (2 ^ 63 - 1)
              ≤ now.millisSince finished))
        ∧ (now.isLeap = false → finished.isLeap = false →
          now.millisSince finished
            = (now.sinceEpoch - finished.sinceEpoch).tdiv nanosPerMilli))
      ∧ ((r.status = .failover → ¬ (r.runCount ≤ 1 ∧ r.node ≠ some node) → ∀ t ∈ r.finishedAt,
          now.isLeap = false ∧ later.isLeap = false ∧ t.isLeap = false) →
        r.isRunnableNow node policy now = true → r.isRunnableNow node policy later = true) := by
  refine ⟨⟨now.fits64_millis, timeout.fits64_clockMillis, fits64_clampMillis _⟩,
    r.isStale_iff timeout now, checkHeartbeat_eq_failedOver_iff, isStale_of_le h, ?_,
    isRunnableNow_of_le h⟩
  intro finished
  obtain ⟨hseconds, hmillis⟩ := now.fits64_between finished
  refine ⟨hseconds, hmillis, ?_, ?_⟩
  · intro hstatus hfinished hstays
    have hstays : ¬ r.MovesAtOnce node := hstays
    rw [isRunnableNow_iff, ← Duration.clockMillis_eq]
    simp [hstatus, hfinished, hstays]
  · intro hnow hleap
    rw [Instant.millisSince, Instant.nanosSince_eq hnow hleap]

/-- The last sign of life and the timeout are at the limits, and at the epoch the run is overdue by
a millisecond. The cool-down of ten seconds is over at the epoch to the millisecond. -/
theorem tests_exact_and_lasting_at_limits :
    let now := ClockTime.epoch.toInstant
    let later := (ClockTime.epoch.advance 1).toInstant
    let timeout : Duration := .ofSeconds (2 ^ 64)
    let policy : FailoverPolicy := ({} : FailoverPolicy).withFixedDelay (.ofSeconds 10)
    let r : Record :=
      { Record.fresh "a" "t" none now with
        status := .failover
        runCount := 2
        node := some "n"
        heartbeat := Int64.minValue
        finishedAt := some (ClockTime.clamp (-10000)).toInstant }
    now.le later = true ∧ now.millis - r.heartbeat.toInt = 2 ^ 63
      ∧ r.isStale timeout later = true
      ∧ now.millisSince (ClockTime.clamp (-10000)).toInstant = 10000
      ∧ r.isRunnableNow "n" policy later = true := by
  intro now later timeout policy r
  have h : now.le later = true := by decide
  have hage : now.millis - r.heartbeat.toInt = 2 ^ 63 := by decide
  obtain ⟨-, hstale, -, hstays, hrunnable, hlasts⟩ :=
    tests_exact_and_lasting r "n" [] policy timeout now later h
  obtain ⟨-, -, hcooled, hpassed⟩ := hrunnable (ClockTime.clamp (-10000)).toInstant
  have hsince : now.millisSince (ClockTime.clamp (-10000)).toInstant = 10000 :=
    (hpassed (by decide) (by decide)).trans (by decide)
  have hnow : r.isRunnableNow "n" policy now = true := by
    refine (hcooled rfl rfl (by decide)).mpr ?_
    rw [hsince]
    decide
  refine ⟨h, hage, hstays (by decide) (hstale.mpr ?_), hsince, hlasts ?_ hnow⟩
  · rw [hage]
    decide
  · intro _ _ t ht
    obtain rfl : (ClockTime.clamp (-10000)).toInstant = t := Option.some.inj ht
    decide

section LeapSeconds

/-- A test against the clock that holds at a time, and not any more at a later one. -/
structure TurnsBack (test : Instant → Bool) (now later : Instant) : Prop where
  le : now.le later = true
  holds : test now = true
  fails : test later = false

def noon : Instant := ⟨1699963200, 0, by decide, by decide, by decide⟩

/-- A tenth of a second before the leap second that ends the first minute after noon. -/
def beforeLeap : Instant := ⟨1699963259, 900000000, by decide, by decide, by decide⟩

/-- In the middle of that leap second. -/
def inLeap : Instant := ⟨1699963259, 1500000000, by decide, by decide, by decide⟩

/-- At the end of that leap second. -/
def afterLeap : Instant := ⟨1699963260, 0, by decide, by decide, by decide⟩

/-- An hour before midnight on the day before. -/
def dayBefore : Instant := ⟨1699916400, 0, by decide, by decide, by decide⟩

def beforeMidnight : Instant := ⟨1700006399, 900000000, by decide, by decide, by decide⟩

def midnight : Instant := ⟨1700006400, 0, by decide, by decide, by decide⟩

/-- A task in failover whose second run has ended. -/
def endedAt (t : Instant) : Record :=
  { Record.fresh "a" "t" none ClockTime.epoch.toInstant with
    status := .failover
    runCount := 2
    node := some "n"
    finishedAt := some t }

/-- May the task be started by its node, with a cool-down of some milliseconds? -/
def coolsDown (millis : Nat) (r : Record) (now : Instant) : Bool :=
  r.isRunnableNow "n" (({} : FailoverPolicy).withFixedDelay (.ofMillis millis)) now

/-- A cool-down that began in the leap second is over shortly before midnight, and not any more at
midnight. -/
theorem turnsBack_of_finished_inLeap :
    TurnsBack (coolsDown 43140000 (endedAt inLeap)) beforeMidnight midnight :=
  ⟨by decide, by decide +kernel, by decide +kernel⟩

/-- In the leap second a cool-down is over that is not a moment later. -/
theorem turnsBack_of_now_inLeap :
    TurnsBack (coolsDown 60400 (endedAt noon)) inLeap afterLeap :=
  ⟨by decide, by decide +kernel, by decide +kernel⟩

/-- In the leap second a cool-down is not over that was a moment before. -/
theorem turnsBack_of_later_inLeap :
    TurnsBack (coolsDown 46859800 (endedAt dayBefore)) beforeLeap inLeap :=
  ⟨by decide, by decide +kernel, by decide +kernel⟩

/-- In the leap second a sign of life is overdue that is not a moment later. -/
theorem turnsBack_of_stale_inLeap :
    TurnsBack ({ endedAt noon with heartbeat := 1699963260200 }.isStale (.ofMillis 0)) inLeap
      afterLeap :=
  ⟨by decide, by decide +kernel, by decide +kernel⟩

/-- **Leap seconds turn both tests back**: a cool-down that begins, is looked at or is looked at
again in one may last longer than it did, and a run that is overdue in one need not stay so. -/
theorem turns_back_at_leap_seconds :
    TurnsBack (coolsDown 43140000 (endedAt inLeap)) beforeMidnight midnight
      ∧ TurnsBack (coolsDown 60400 (endedAt noon)) inLeap afterLeap
      ∧ TurnsBack (coolsDown 46859800 (endedAt dayBefore)) beforeLeap inLeap
      ∧ TurnsBack ({ endedAt noon with heartbeat := 1699963260200 }.isStale (.ofMillis 0)) inLeap
        afterLeap :=
  ⟨turnsBack_of_finished_inLeap, turnsBack_of_now_inLeap, turnsBack_of_later_inLeap,
    turnsBack_of_stale_inLeap⟩

end LeapSeconds

end Record

end TaskCluster
