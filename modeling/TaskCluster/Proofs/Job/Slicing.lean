import Mathlib
import TaskCluster.Job.Registry

/-!
# The slices of a sleep and its duration

A sleep is cut into equal slices, rounded down to whole nanoseconds, so together the slices fall
short of its duration by less than a nanosecond each. The cut is into `maxParts` parts at most,
while every step sleeps for a slice. So a sleep with more steps than that may last longer than its
duration, and it does unless the rounding makes up for it (`SleepJob.slices_fill_duration`).

`Work.Waits` gathers what a job waits for when no signal ever comes.
-/

namespace TaskCluster

/-! ### The waits of a job -/

/-- Left alone, the work waits for these times, in this order, and then ends. -/
inductive Work.Waits (id : String) : Work → List Duration → Prop
  | finish {w : Work} {e : Ending} (h : w.next id {} = .finish e) : Waits id w []
  | write {w rest : Work} {line : String} {ds : List Duration}
      (h : w.next id {} = .write line rest) (later : Waits id rest ds) : Waits id w ds
  | goOn {w rest : Work} {ds : List Duration} (h : w.next id {} = .goOn rest)
      (later : Waits id rest ds) : Waits id w ds
  | pause {w rest : Work} {d : Duration} {ds : List Duration}
      (h : w.next id {} = .pause d rest) (later : Waits id rest ds) : Waits id w (d :: ds)
  | block {w rest : Work} {d : Duration} {ds : List Duration}
      (h : w.next id {} = .block d rest) (later : Waits id rest ds) : Waits id w (d :: ds)

namespace Work

variable {id : String} {w rest : Work} {ds : List Duration}

theorem waits_of_finish {e : Ending} (h : w.next id {} = .finish e) :
    w.Waits id ds ↔ ds = [] := by
  constructor
  · intro hwaits
    cases hwaits with
    | finish _ => rfl
    | write h' _ | goOn h' _ | pause h' _ | block h' _ => simp [h] at h'
  · rintro rfl
    exact .finish h

theorem waits_of_write {line : String} (h : w.next id {} = .write line rest) :
    w.Waits id ds ↔ rest.Waits id ds := by
  constructor
  · intro hwaits
    cases hwaits with
    | finish h' | goOn h' _ | pause h' _ | block h' _ => simp [h] at h'
    | write h' later =>
      obtain ⟨-, rfl⟩ := Demand.write.inj (h.symm.trans h')
      exact later
  · exact .write h

theorem waits_of_pause {d : Duration} (h : w.next id {} = .pause d rest) :
    w.Waits id ds ↔ ∃ later, rest.Waits id later ∧ ds = d :: later := by
  constructor
  · intro hwaits
    cases hwaits with
    | finish h' | write h' _ | goOn h' _ | block h' _ => simp [h] at h'
    | pause h' later =>
      obtain ⟨rfl, rfl⟩ := Demand.pause.inj (h.symm.trans h')
      exact ⟨_, later, rfl⟩
  · rintro ⟨later, hlater, rfl⟩
    exact .pause h hlater

/-- Slices that nobody disturbs are slept one after the other. -/
theorem waits_slices {d : Duration} {steps done left : Nat} :
    (slices d steps done left).Waits id ds ↔ ds = List.replicate left d := by
  induction left generalizing done ds with
  | zero => rw [waits_of_finish rfl, List.replicate_zero]
  | succ left ih =>
    have hslice : (slices d steps done (left + 1)).next id {}
        = .pause d (.slept d steps done left) := rfl
    have hline : (slept d steps done left).next id {}
        = .write (stepLine (done + 1) steps) (.slices d steps (done + 1) left) := rfl
    simp only [waits_of_pause hslice, waits_of_write hline, ih, exists_eq_left,
      List.replicate_succ]

end Work

namespace SleepJob

/-! ### Equal parts, rounded down -/

section Parts

variable {total steps : Nat} (hsteps : 1 ≤ steps) (parts : Nat)
include hsteps

/-- The steps fall short of the whole by less than one each. -/
theorem lt_steps_mul_part (hparts : 1 ≤ parts) :
    total < steps * (total / min steps parts) + steps := by
  have hmin : 0 < min steps parts := by omega
  calc total < min steps parts * (total / min steps parts) + min steps parts :=
        (Nat.lt_mul_div_succ total hmin).trans_eq (Nat.mul_succ _ _)
    _ ≤ steps * (total / min steps parts) + steps :=
        Nat.add_le_add (Nat.mul_le_mul_right _ (min_le_left _ _)) (min_le_left _ _)

/-- They stay within the whole exactly if the cut is as fine as one into that many parts. -/
theorem steps_mul_part_le_iff (hparts : 1 ≤ parts) :
    steps * (total / min steps parts) ≤ total ↔ total / min steps parts = total / steps := by
  have hmin : 0 < min steps parts := by omega
  have hcoarse : total / steps ≤ total / min steps parts :=
    Nat.div_le_div_left (min_le_left _ _) hmin
  constructor
  · intro h
    have hfine : total / min steps parts ≤ total / steps := by
      rw [Nat.le_div_iff_mul_le hsteps, Nat.mul_comm]
      exact h
    exact le_antisymm hfine hcoarse
  · intro h
    rw [h]
    exact Nat.mul_div_le total steps

end Parts

/-! ### A sleep -/

variable (j : SleepJob) {c : Config}

theorem of_ofConfig {j : SleepJob} (h : ofConfig c = .ok j) :
    ∃ millis, c.natural "duration_ms" = .ok millis ∧ c.naturalOr "steps" 1 = .ok j.steps
      ∧ 1 ≤ j.steps ∧ j.duration = .ofMillis millis := by
  rw [ofConfig] at h
  cases hmillis : c.natural "duration_ms" with
  | error e => simp [hmillis, bind, Except.bind] at h
  | ok millis =>
    cases hsteps : c.naturalOr "steps" 1 with
    | error e => simp [hmillis, hsteps, bind, Except.bind] at h
    | ok steps =>
      by_cases hzero : steps = 0
      · simp [hmillis, hsteps, hzero, bind, Except.bind] at h
      · obtain rfl : ⟨.ofMillis millis, steps⟩ = j := by
          simpa [hmillis, hsteps, hzero, bind, Except.bind] using h
        exact ⟨millis, rfl, rfl, Nat.one_le_iff_ne_zero.mpr hzero, rfl⟩

theorem waits_work (id : String) (ds : List Duration) :
    j.work.Waits id ds ↔ ds = List.replicate j.steps j.slice :=
  Work.waits_slices

/-- How long a sleep lasts if nobody disturbs it, in nanoseconds. -/
theorem sum_of_waits {id : String} {ds : List Duration} (h : j.work.Waits id ds) :
    (ds.map Duration.nanos).sum = j.steps * j.slice.nanos := by
  rw [(j.waits_work id ds).mp h, List.map_replicate, List.sum_replicate, smul_eq_mul]

/-- **The slices of a sleep.** A sleep that nobody disturbs waits for as many slices as it has
steps, all of one length, and then ends. Together they fall short of the configured duration by less
than a nanosecond for each step. They do not go beyond it as long as the steps are at most
`maxParts`; with more steps they do not exactly if a cut into all steps gives slices of the same
length. -/
theorem slices_fill_duration {j : SleepJob} (h : ofConfig c = .ok j) (id : String) :
    ∃ millis, c.natural "duration_ms" = .ok millis ∧ c.naturalOr "steps" 1 = .ok j.steps
      ∧ 1 ≤ j.steps
      ∧ ∃ waits, (∀ ds, j.work.Waits id ds ↔ ds = waits)
        ∧ waits = List.replicate j.steps j.slice
        ∧ let duration := millis * nanosPerMilli
          let slept := (waits.map Duration.nanos).sum
          slept = j.steps * j.slice.nanos
          ∧ duration < slept + j.steps
          ∧ (j.steps ≤ maxParts → slept ≤ duration)
          ∧ (maxParts < j.steps →
            (slept ≤ duration ↔ duration / maxParts = duration / j.steps)) := by
  obtain ⟨millis, hmillis, hcount, hsteps, hduration⟩ := of_ofConfig h
  have hslept := j.sum_of_waits ((j.waits_work id _).mpr rfl)
  have hslice : j.slice.nanos = millis * nanosPerMilli / min j.steps maxParts := by
    rw [slice, hduration, Duration.part, Duration.ofMillis]
  have hparts : 1 ≤ maxParts := by decide
  refine ⟨millis, hmillis, hcount, hsteps, _, j.waits_work id, rfl, hslept, ?_, ?_, ?_⟩
  · rw [hslept, hslice]
    exact lt_steps_mul_part hsteps maxParts hparts
  · intro hfew
    rw [hslept, hslice, steps_mul_part_le_iff hsteps maxParts hparts, min_eq_left hfew]
  · intro hmany
    rw [hslept, hslice, steps_mul_part_le_iff hsteps maxParts hparts, min_eq_right hmany.le]

/-- Ten milliseconds in three steps: a nanosecond is left over. -/
theorem slices_fill_duration_of_three :
    let c : Config := some [("duration_ms", .int 10), ("steps", .int 3)]
    let j : SleepJob := ⟨.ofMillis 10, 3⟩
    ofConfig c = .ok j ∧ (∀ ds, j.work.Waits "t" ds ↔ ds = List.replicate 3 ⟨3333333⟩)
      ∧ 3 * 3333333 ≤ 10 * nanosPerMilli ∧ 10 * nanosPerMilli < 3 * 3333333 + 3 := by
  intro c j
  have hconfig : ofConfig c = .ok j := rfl
  obtain ⟨millis, hmillis, -, -, waits, hwaits, hslices, hslept, hshort, hwithin, -⟩ :=
    slices_fill_duration hconfig "t"
  obtain rfl : 10 = millis := Except.ok.inj hmillis
  have hslice : j.slice = ⟨3333333⟩ := by decide
  rw [hslice] at hslices hslept
  rw [hslept] at hshort hwithin
  exact ⟨hconfig, fun ds => (hwaits ds).trans (by rw [hslices]), hwithin (by decide), hshort⟩

/-- The steps are twice the greatest number of parts, so the sleep lasts twice its duration. -/
theorem lasts_twice_of_twice_maxParts :
    let c : Config := some [("duration_ms", .int 85899345900), ("steps", .int 8589934590)]
    ∃ j, ofConfig c = .ok j ∧ j.steps = 2 * maxParts
      ∧ ∃ waits, (∀ ds, j.work.Waits "t" ds ↔ ds = waits)
        ∧ (waits.map Duration.nanos).sum = 2 * (85899345900 * nanosPerMilli)
        ∧ ¬ (waits.map Duration.nanos).sum ≤ 85899345900 * nanosPerMilli := by
  intro c
  let j : SleepJob := ⟨.ofMillis 85899345900, 8589934590⟩
  have hslept := j.sum_of_waits ((j.waits_work "t" _).mpr rfl)
  have hslice : j.slice.nanos = 20 * nanosPerMilli := by decide
  have htwice : j.steps * (20 * nanosPerMilli) = 2 * (85899345900 * nanosPerMilli) := by decide
  rw [hslice, htwice] at hslept
  refine ⟨j, rfl, rfl, _, j.waits_work "t", hslept, ?_⟩
  rw [hslept]
  decide

end SleepJob

end TaskCluster
