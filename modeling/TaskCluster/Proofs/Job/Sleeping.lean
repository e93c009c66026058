import Mathlib
import TaskCluster.Job.Registry
import TaskCluster.Proofs.Job.Burst

/-!
# A sleep in slices, under signals that come at any time

`Execution.obey` runs an execution under a schedule of signals: up to the time of each signal, and
after the last one for as long as time alone makes it step. A sleep looks for signals before each of
its slices, and an interrupt also ends the slice that it comes in. So all that matters is the slice
in which the first signal comes (`SleepJob.obey_lastSlice`): before it the sleep goes on slice by
slice (`SleepJob.runUntil_progress`), and with it the sleep ends.

A slice may take no time at all. Then the job is over at once, and no signal can come between.
-/

namespace TaskCluster

namespace Execution

/-- Runs the execution from a time on under signals, each with the time at which it is sent, and
after the last of them for as long as time alone makes it step. -/
def obey : List (Nat × Signal) → Nat → Execution → List Timed × Execution
  | [], time, x =>
    let run := x.runOut x.stepBound time
    (run.1, run.2.2)
  | (sent, signal) :: rest, time, x =>
    let run := x.runUntil x.stepBound sent time
    let later := obey rest sent (run.2.receive signal)
    (run.1 ++ later.1, later.2)

/-! ### Executions that have ended -/

variable {x y : Execution} {effects : List Timed} {fuel limit time till : Nat} {work : Work}

theorem phase_receive (x : Execution) (signal : Signal) : (x.receive signal).phase = x.phase := by
  cases signal <;> rfl

theorem runUntil_ended (h : x.phase = .ended) (fuel limit time : Nat) :
    x.runUntil fuel limit time = ([], x) := by
  cases fuel <;> simp [runUntil, isDue, wakesAt, h]

theorem runOut_ended (h : x.phase = .ended) (fuel time : Nat) :
    x.runOut fuel time = ([], time, x) := by
  cases fuel <;> simp [runOut, isDue, wakesAt, h]

theorem obey_ended (h : x.phase = .ended) (σ : List (Nat × Signal)) (time : Nat) :
    ∃ y, x.obey σ time = ([], y) ∧ y.phase = .ended := by
  induction σ generalizing x time with
  | nil => exact ⟨x, by rw [obey, runOut_ended h], h⟩
  | cons e σ ih =>
    obtain ⟨y, hy, hended⟩ := ih ((phase_receive x e.2).trans h) e.1
    exact ⟨y, by rw [obey, runUntil_ended h]; exact hy, hended⟩

/-- An execution that ends before a limit ends in the same way before any later one. -/
theorem runUntil_of_le {limit' : Nat} (h : x.runUntil fuel limit time = (effects, y))
    (hy : y.phase = .ended) (hle : limit ≤ limit') :
    x.runUntil fuel limit' time = (effects, y) := by
  induction fuel generalizing x time effects with
  | zero => exact h
  | succ fuel ih =>
    rw [runUntil] at h ⊢
    split at h
    case isTrue hdue =>
      obtain ⟨heffects, hend⟩ := Prod.ext_iff.mp h
      have hrest : (x.step time).1.runUntil fuel limit time = (_, y) := Prod.ext rfl hend
      rw [if_pos hdue]
      dsimp only
      rw [ih hrest]
      exact Prod.ext heffects rfl
    case isFalse hdue =>
      rw [if_neg hdue]
      cases hwake : x.wakesAt with
      | none =>
        rw [hwake] at h
        exact h
      | some wake =>
        rw [hwake] at h
        dsimp only at h ⊢
        split at h
        case isTrue hwithin =>
          rw [if_pos (hwithin.trans hle)]
          exact ih h
        case isFalse =>
          obtain rfl : x = y := congrArg Prod.snd h
          simp [wakesAt, hy] at hwake

/-- An execution that ends before a limit does so alone. -/
theorem runOut_of_runUntil (h : x.runUntil fuel limit time = (effects, y))
    (hy : y.phase = .ended) : ∃ last, x.runOut fuel time = (effects, last, y) := by
  induction fuel generalizing x time effects with
  | zero =>
    obtain ⟨rfl, rfl⟩ := Prod.ext_iff.mp h
    exact ⟨time, rfl⟩
  | succ fuel ih =>
    rw [runUntil] at h
    rw [runOut]
    split at h
    case isTrue hdue =>
      obtain ⟨heffects, hend⟩ := Prod.ext_iff.mp h
      have hrest : (x.step time).1.runUntil fuel limit time = (_, y) := Prod.ext rfl hend
      obtain ⟨last, hlast⟩ := ih hrest
      rw [if_pos hdue]
      dsimp only
      rw [hlast]
      exact ⟨last, Prod.ext heffects rfl⟩
    case isFalse hdue =>
      rw [if_neg hdue]
      cases hwake : x.wakesAt with
      | none =>
        rw [hwake] at h
        obtain ⟨rfl, rfl⟩ := Prod.ext_iff.mp h
        exact ⟨time, rfl⟩
      | some wake =>
        rw [hwake] at h
        dsimp only at h ⊢
        split at h
        case isTrue => exact ih h
        case isFalse =>
          obtain rfl : x = y := congrArg Prod.snd h
          simp [wakesAt, hy] at hwake

/-- Signals that come after the end change nothing. -/
theorem obey_of_runUntil {σ : List (Nat × Signal)}
    (h : x.runUntil x.stepBound limit time = (effects, y)) (hy : y.phase = .ended)
    (hσ : ∀ e ∈ σ, limit ≤ e.1) : ∃ z, x.obey σ time = (effects, z) ∧ z.phase = .ended := by
  cases σ with
  | nil =>
    obtain ⟨last, hlast⟩ := runOut_of_runUntil h hy
    exact ⟨y, by rw [obey, hlast], hy⟩
  | cons e σ =>
    have hrun := runUntil_of_le h hy (hσ e List.mem_cons_self)
    obtain ⟨z, hz, hended⟩ := obey_ended ((phase_receive y e.2).trans hy) σ e.1
    refine ⟨z, ?_, hended⟩
    rw [obey, hrun]
    dsimp only
    rw [hz, List.append_nil]

/-! ### Executions that sleep -/

theorem runUntil_ready (h : x.phase = .ready work) :
    x.runUntil (fuel + 1) limit time
      = ((x.run time work).2.map (time, ·) ++
          ((x.run time work).1.runUntil fuel limit time).1,
        ((x.run time work).1.runUntil fuel limit time).2) := by
  have hstep : x.step time = x.run time work := by rw [step, h]
  rw [runUntil, if_pos (by rw [isDue, h]), hstep]

/-- A job that ends with its first step leaves nothing for the signals to change. -/
theorem obey_of_run {σ : List (Nat × Signal)} {made : List Effect} (h : x.phase = .ready work)
    (hrun : x.run time work = (y, made)) (hy : y.phase = .ended) (hσ : ∀ e ∈ σ, time ≤ e.1) :
    ∃ z, x.obey σ time = (made.map (time, ·), z) ∧ z.phase = .ended := by
  have hbound : x.stepBound = 2 * work.size + 3 + 1 := by rw [stepBound, h]
  have hend : x.runUntil x.stepBound time time = (made.map (time, ·), y) := by
    rw [hbound, runUntil_ready h, hrun]
    dsimp only
    rw [runUntil_ended hy, List.append_nil]
  exact obey_of_runUntil hend hy hσ

section Pausing

variable (hphase : x.phase = .pausing till work)
include hphase

theorem runUntil_pausing_of_lt (hint : x.signals.interrupted = false) (htime : time < till)
    (hlimit : limit < till) : x.runUntil fuel limit time = ([], x) := by
  cases fuel with
  | zero => rfl
  | succ fuel =>
    have hdue : ¬ x.isDue time = true := by
      simp only [isDue, hphase, hint, Bool.false_or, decide_eq_true_eq]
      omega
    have hwake : x.wakesAt = some till := by rw [wakesAt, hphase]
    rw [runUntil, if_neg hdue, hwake]
    exact if_neg (by omega)

/-- At the end of the pause the job goes on. -/
theorem runUntil_pausing_of_le (hint : x.signals.interrupted = false) (htime : time < till)
    (hlimit : till ≤ limit) :
    x.runUntil (fuel + 2) limit time
      = ((x.run till work).2.map (till, ·) ++ ((x.run till work).1.runUntil fuel limit till).1,
        ((x.run till work).1.runUntil fuel limit till).2) := by
  have hdue : ¬ x.isDue time = true := by
    simp only [isDue, hphase, hint, Bool.false_or, decide_eq_true_eq]
    omega
  have hdue' : x.isDue till = true := by simp [isDue, hphase]
  have hwake : x.wakesAt = some till := by rw [wakesAt, hphase]
  have hstep : x.step till = x.run till work := by simp [step, hphase, hint]
  rw [runUntil, if_neg hdue, hwake]
  dsimp only
  rw [if_pos hlimit, max_eq_right htime.le, runUntil, if_pos hdue', hstep]

/-- An interrupt ends a pause at once, and the job with it. -/
theorem runUntil_pausing_of_interrupted (hint : x.signals.interrupted = true)
    (limit time : Nat) :
    x.runUntil x.stepBound limit time
      = ([(time, .report .failover (some interruptedMessage))], { x with phase := .ended }) := by
  have hbound : x.stepBound = 2 * work.size + 3 + 1 := by rw [stepBound, hphase]
  have hdue : x.isDue time = true := by simp [isDue, hphase, hint]
  have hstep : x.step time
      = ({ x with phase := .ended }, [.report .failover (some interruptedMessage)]) := by
    simp [step, hphase, hint, finish, Ending.report]
  rw [hbound, runUntil, if_pos hdue, hstep]
  dsimp only
  rw [runUntil_ended rfl]
  rfl

end Pausing

end Execution

/-! ### The slices of a sleep -/

namespace SleepJob

open Execution

variable (j : SleepJob) (id : String) (start : Nat)

/-- The time at which the first slices are over, if the sleep is not disturbed. -/
def sliceEnd (done : Nat) : Nat := start + done * j.slice.timerMillis

/-- The lines about some slices that are over, each at the end of its slice. -/
def progress (first count : Nat) : List Timed :=
  (List.range' first count).map fun i => (j.sliceEnd start i, .log (stepLine i j.steps))

/-- The execution in the slice behind those that are over. -/
def asleep (done : Nat) (s : Signals) : Execution where
  task := id
  signals := s
  phase := .pausing (j.sliceEnd start (done + 1))
    (.slept j.slice j.steps done (j.steps - (done + 1)))

theorem timerMillis_pos (h : j.slice.nanos ≠ 0) : 0 < j.slice.timerMillis := by
  simp only [Duration.timerMillis, nanosPerMilli]
  omega

theorem sliceEnd_succ (done : Nat) :
    j.sliceEnd start (done + 1) = j.sliceEnd start done + j.slice.timerMillis := by
  rw [sliceEnd, sliceEnd, Nat.succ_mul, Nat.add_assoc]

theorem sliceEnd_lt_succ (h : j.slice.nanos ≠ 0) (done : Nat) :
    j.sliceEnd start done < j.sliceEnd start (done + 1) := by
  have hpos := j.timerMillis_pos h
  rw [sliceEnd_succ]
  omega

/-- The first slice takes time. -/
theorem start_lt_sliceEnd (h : j.slice.nanos ≠ 0) : start < j.sliceEnd start (0 + 1) := by
  have hpos := j.timerMillis_pos h
  rw [sliceEnd]
  omega

theorem sliceEnd_le {a b : Nat} (h : a ≤ b) : j.sliceEnd start a ≤ j.sliceEnd start b :=
  Nat.add_le_add_left (Nat.mul_le_mul_right _ h) start

theorem progress_succ (first count : Nat) :
    j.progress start first (count + 1)
      = (j.sliceEnd start first, .log (stepLine first j.steps))
        :: j.progress start (first + 1) count := by
  rw [progress, List.range'_succ, List.map_cons, progress]

theorem progress_add (first a b : Nat) :
    j.progress start first (a + b)
      = j.progress start first a ++ j.progress start (first + a) b := by
  induction a generalizing first with
  | zero => simp [progress]
  | succ a ih =>
    rw [Nat.succ_add, progress_succ, ih, progress_succ, Nat.succ_add_eq_add_succ]
    rfl

/-! #### Bursts -/

section Burst

variable {d : Duration} {s : Signals} (n done left : Nat)

theorem burst_slept : Work.burst id s (.slept d n done left)
    = (stepLine (done + 1) n :: (Work.burst id s (.slices d n (done + 1) left)).1,
      (Work.burst id s (.slices d n (done + 1) left)).2) := by
  rw [Work.burst_eq]
  rfl

theorem burst_slices_zero : Work.burst id s (.slices d n done 0) = ([], .ended .completed) := by
  rw [Work.burst_eq]
  rfl

theorem burst_slices_of_any (hs : s.any = true) :
    Work.burst id s (.slices d n done (left + 1)) = ([stoppedLine done n], .ended .completed) := by
  rw [Work.burst_eq, Work.next, if_pos hs, Demand.met, Work.burst_eq]
  rfl

theorem burst_slices_of_quiet (hs : s.any = false) (hd : d.nanos ≠ 0) :
    Work.burst id s (.slices d n done (left + 1)) = ([], .pausing d (.slept d n done left)) := by
  have hint : ¬ s.interrupted = true := by
    simp only [Signals.any, Bool.or_eq_false_iff] at hs
    simp [hs.2]
  rw [Work.burst_eq, Work.next, if_neg (by simp [hs]), Demand.met, if_neg hint, if_neg hd]

/-- Slices that take no time are over at once. -/
theorem burst_slices_of_instant (hs : s.any = false) (hd : d.nanos = 0) :
    Work.burst id s (.slices d n done left)
      = ((List.range' (done + 1) left).map (stepLine · n), .ended .completed) := by
  induction left generalizing done with
  | zero => exact burst_slices_zero id n done
  | succ left ih =>
    have hint : ¬ s.interrupted = true := by
      simp only [Signals.any, Bool.or_eq_false_iff] at hs
      simp [hs.2]
    rw [Work.burst_eq, Work.next, if_neg (by simp [hs]), Demand.met, if_neg hint, if_pos hd,
      burst_slept, ih, List.range'_succ, List.map_cons]

end Burst

/-! #### From the end of one slice to the next -/

variable {s : Signals} {done : Nat}

/-- Nothing was heard, so the next slice begins. -/
theorem run_asleep_of_quiet (hs : s.any = false) (hd : j.slice.nanos ≠ 0)
    (hdone : done + 1 < j.steps) :
    (j.asleep id start done s).run (j.sliceEnd start (done + 1))
        (.slept j.slice j.steps done (j.steps - (done + 1)))
      = (j.asleep id start (done + 1) s, [.log (stepLine (done + 1) j.steps)]) := by
  obtain ⟨left, hleft⟩ : ∃ left, j.steps - (done + 1) = left + 1 :=
    ⟨j.steps - (done + 2), by omega⟩
  have hrest : j.steps - (done + 1 + 1) = left := by omega
  rw [run]
  simp only [asleep, hleft, hrest, burst_slept, burst_slices_of_quiet _ _ _ _ hs hd, sliceEnd_succ]
  rfl

/-- The last slice is over, or the job stops since it was asked to cancel. -/
theorem run_asleep_of_last (hint : s.interrupted = false)
    (hlast : s.canceled = true ∨ done + 1 = j.steps) (hdone : done < j.steps) :
    (j.asleep id start done s).run (j.sliceEnd start (done + 1))
        (.slept j.slice j.steps done (j.steps - (done + 1)))
      = ({ j.asleep id start done s with phase := .ended },
        .log (stepLine (done + 1) j.steps) ::
          (if done + 1 < j.steps then [.log (stoppedLine (done + 1) j.steps)] else []) ++
          [.report (if s.canceled then .canceled else .finishedOk) none]) := by
  have hreport : Ending.completed.report s
      = (if s.canceled then .canceled else .finishedOk, none) := by
    simp only [Ending.report, hint]
    cases s.canceled <;> rfl
  rw [run]
  simp only [asleep]
  by_cases hmore : done + 1 < j.steps
  · obtain ⟨left, hleft⟩ : ∃ left, j.steps - (done + 1) = left + 1 :=
      ⟨j.steps - (done + 2), by omega⟩
    have hany : s.any = true := by
      rcases hlast with hcanceled | hend
      · simp [Signals.any, hcanceled]
      · omega
    simp [hleft, burst_slept, burst_slices_of_any _ _ _ _ hany, finish, hreport, hmore]
  · have hleft : j.steps - (done + 1) = 0 := by omega
    simp [hleft, burst_slept, burst_slices_zero, finish, hreport, hmore]

/-! #### Undisturbed slices -/

section Undisturbed

variable (hd : j.slice.nanos ≠ 0) {fuel limit time : Nat}
include hd

/-- Up to a time in a later slice the sleep goes on slice by slice. -/
theorem runUntil_progress (count : Nat) (hfuel : 2 * count ≤ fuel) (hcount : done + count < j.steps)
    (htime : time < j.sliceEnd start (done + 1)) (hlow : j.sliceEnd start (done + count) ≤ limit)
    (hhigh : limit < j.sliceEnd start (done + count + 1)) :
    (j.asleep id start done {}).runUntil fuel limit time
      = (j.progress start (done + 1) count, j.asleep id start (done + count) {}) := by
  -- A slice takes two steps: the wait for its end, and the step that begins the next.
  induction count generalizing done fuel time with
  | zero => exact runUntil_pausing_of_lt rfl rfl htime hhigh
  | succ count ih =>
    obtain ⟨fuel, rfl⟩ := Nat.exists_eq_add_of_le' (show 2 ≤ fuel by omega)
    have hwithin : j.sliceEnd start (done + 1) ≤ limit :=
      (j.sliceEnd_le start (by omega)).trans hlow
    have hsum : done + 1 + count = done + (count + 1) := by omega
    have hmore : done + 1 < j.steps := by omega
    have hless : 2 * count ≤ fuel := by omega
    have hrun := j.run_asleep_of_quiet id start (s := {}) rfl hd hmore
    have hrest := ih hless (by omega) (j.sliceEnd_lt_succ start hd (done + 1))
      (by rw [hsum]; exact hlow) (by rw [hsum]; exact hhigh)
    rw [runUntil_pausing_of_le rfl rfl htime hwithin, hrun]
    dsimp only
    rw [hrest, progress_succ, hsum, List.map_singleton, List.singleton_append]

/-- A sleep that hears nothing is complete. -/
theorem runUntil_complete (count : Nat) (hfuel : 2 * (count + 1) ≤ fuel)
    (hcount : done + count + 1 = j.steps) (htime : time < j.sliceEnd start (done + 1))
    (hlimit : j.sliceEnd start j.steps ≤ limit) :
    (j.asleep id start done {}).runUntil fuel limit time
      = (j.progress start (done + 1) (count + 1) ++
          [(j.sliceEnd start j.steps, .report .finishedOk none)],
        ⟨id, {}, .ended⟩) := by
  induction count generalizing done fuel time with
  | zero =>
    obtain ⟨fuel, rfl⟩ := Nat.exists_eq_add_of_le' (show 2 ≤ fuel by omega)
    have hend : done + 1 = j.steps := by omega
    have hrun := j.run_asleep_of_last id start (s := {}) rfl (.inr hend) (by omega)
    rw [runUntil_pausing_of_le rfl rfl htime (hend ▸ hlimit), hrun]
    dsimp only
    rw [runUntil_ended rfl, if_neg (by omega), progress_succ]
    simp [progress, asleep, hend]
  | succ count ih =>
    obtain ⟨fuel, rfl⟩ := Nat.exists_eq_add_of_le' (show 2 ≤ fuel by omega)
    have hwithin : j.sliceEnd start (done + 1) ≤ limit :=
      (j.sliceEnd_le start (by omega)).trans hlimit
    have hmore : done + 1 < j.steps := by omega
    have hless : 2 * (count + 1) ≤ fuel := by omega
    have hrun := j.run_asleep_of_quiet id start (s := {}) rfl hd hmore
    have hrest := ih hless (by omega) (j.sliceEnd_lt_succ start hd (done + 1))
    rw [runUntil_pausing_of_le rfl rfl htime hwithin, hrun]
    dsimp only
    rw [hrest, progress_succ j start (done + 1) (count + 1), List.map_singleton,
      List.singleton_append, List.cons_append]

end Undisturbed

/-! #### The slice in which a signal comes -/

/-- The line about a job that stopped before its last slice, at its time. -/
def stopLine (done : Nat) : List Timed :=
  if done < j.steps then [(j.sliceEnd start done, .log (stoppedLine done j.steps))] else []

/-- How an execution that sleeps and hears of a cancel ends at the end of its slice. -/
theorem runUntil_canceled {limit time : Nat} (hint : s.interrupted = false)
    (hcanceled : s.canceled = true) (hdone : done < j.steps)
    (htime : time < j.sliceEnd start (done + 1)) (hlimit : j.sliceEnd start (done + 1) ≤ limit) :
    (j.asleep id start done s).runUntil (j.asleep id start done s).stepBound limit time
      = (j.progress start (done + 1) 1 ++ j.stopLine start (done + 1) ++
          [(j.sliceEnd start (done + 1), .report .canceled none)],
        ⟨id, s, .ended⟩) := by
  have hbound : (j.asleep id start done s).stepBound
      = 2 * (2 * (j.steps - (done + 1)) + 2) + 2 + 2 := rfl
  rw [hbound, runUntil_pausing_of_le rfl hint htime hlimit,
    j.run_asleep_of_last id start hint (.inl hcanceled) hdone]
  dsimp only
  rw [runUntil_ended rfl, if_pos hcanceled]
  by_cases hmore : done + 1 < j.steps
  · simp [progress, stopLine, asleep, hmore]
  · simp [progress, stopLine, asleep, hmore]

/-- The slice in which a signal comes, or after one has come, is the last. An interrupt ends it at
once. Without one it ends when it is due, and the job is canceled. -/
theorem obey_lastSlice {σ : List (Nat × Signal)} {time : Nat} (hint : s.interrupted = false)
    (hdone : done < j.steps) (htime : time < j.sliceEnd start (done + 1))
    (hsorted : σ.Pairwise fun a b => a.1 ≤ b.1)
    (hapart : ∀ e ∈ σ, e.1 ≠ j.sliceEnd start (done + 1))
    (hsignal : s.canceled = true ∨ ∃ e ∈ σ, e.1 < j.sliceEnd start (done + 1)) :
    (∃ i y, (i, .interrupt) ∈ σ ∧ i < j.sliceEnd start (done + 1)
        ∧ (∀ i', (i', .interrupt) ∈ σ → i ≤ i')
        ∧ (j.asleep id start done s).obey σ time
          = ([(i, .report .failover (some interruptedMessage))], y) ∧ y.phase = .ended)
      ∨ (∀ e ∈ σ, e.1 < j.sliceEnd start (done + 1) → e.2 = .cancel)
        ∧ ∃ y, (j.asleep id start done s).obey σ time
            = (j.progress start (done + 1) 1 ++ j.stopLine start (done + 1) ++
              [(j.sliceEnd start (done + 1), .report .canceled none)], y)
          ∧ y.phase = .ended := by
  -- A cancel does not wake the job, so the signals after it come in the same slice.
  induction σ generalizing s time with
  | nil =>
    have hcanceled : s.canceled = true := hsignal.resolve_right (by simp)
    have hrun := j.runUntil_canceled id start hint hcanceled hdone htime le_rfl
    exact .inr ⟨by simp, obey_of_runUntil hrun rfl (by simp)⟩
  | cons e σ ih =>
    obtain ⟨sent, signal⟩ := e
    obtain ⟨hfirst, hrest⟩ := List.pairwise_cons.mp hsorted
    obtain ⟨hsent, hapart'⟩ := List.forall_mem_cons.mp hapart
    rcases Nat.lt_or_gt_of_ne hsent with hlt | hgt
    · have hobey : (j.asleep id start done s).obey ((sent, signal) :: σ) time
          = ((j.asleep id start done s).receive signal).obey σ sent := by
        rw [obey, runUntil_pausing_of_lt rfl hint htime hlt]
        simp
      rw [hobey]
      cases signal with
      | cancel =>
        rcases ih (s := { s with canceled := true }) hint hlt hrest hapart' (.inl rfl) with
          ⟨i, y, hmem, hi, hmin, hrun⟩ | ⟨hcancels, hrun⟩
        · refine .inl ⟨i, y, List.mem_cons_of_mem _ hmem, hi, ?_, hrun⟩
          intro i' hi'
          exact hmin i' ((List.mem_cons.mp hi').resolve_left (by simp))
        · exact .inr ⟨List.forall_mem_cons.mpr ⟨fun _ => rfl, hcancels⟩, hrun⟩
      | interrupt =>
        have hstop := runUntil_pausing_of_interrupted
          (x := j.asleep id start done { s with interrupted := true }) rfl rfl sent sent
        obtain ⟨y, hrun, hy⟩ := obey_of_runUntil hstop rfl hfirst
        refine .inl ⟨sent, y, List.mem_cons_self, hlt, ?_, hrun, hy⟩
        intro i' hi'
        rcases List.mem_cons.mp hi' with heq | hi'
        · exact (congrArg Prod.fst heq).ge
        · exact hfirst _ hi'
    · have hlate : ∀ e ∈ (sent, signal) :: σ, j.sliceEnd start (done + 1) < e.1 :=
        List.forall_mem_cons.mpr ⟨hgt, fun e he => hgt.trans_le (hfirst e he)⟩
      have hcanceled : s.canceled = true := by
        refine hsignal.resolve_right ?_
        rintro ⟨e, he, hearly⟩
        exact absurd (hlate e he) (by omega)
      have hrun := j.runUntil_canceled id start hint hcanceled hdone htime le_rfl
      refine .inr ⟨fun e he hearly => absurd (hlate e he) (by omega), ?_⟩
      exact obey_of_runUntil hrun rfl fun e he => (hlate e he).le

/-! #### From the beginning -/

/-- The execution before its first step, at which it hears of the signals that came before. -/
def execution (before : Signals) : Execution := { Execution.spawn id j.work with signals := before }

section Beginning

variable {before : Signals} {σ : List (Nat × Signal)}

/-- A job that hears of a signal at once does not begin to sleep. -/
theorem obey_of_any (hsteps : 1 ≤ j.steps) (hstart : ∀ e ∈ σ, start ≤ e.1)
    (hany : before.any = true) :
    ∃ y, (j.execution id before).obey σ start
        = (j.stopLine start 0 ++ [(start, .report (Ending.completed.report before).1
            (Ending.completed.report before).2)], y)
      ∧ y.phase = .ended := by
  obtain ⟨left, hleft⟩ := Nat.exists_eq_add_of_le' hsteps
  have hrun : (j.execution id before).run start j.work
      = ({ j.execution id before with phase := .ended },
        [.log (stoppedLine 0 j.steps), .report (Ending.completed.report before).1
            (Ending.completed.report before).2]) := by
    have hburst : j.work.burst id before = ([stoppedLine 0 j.steps], .ended .completed) := by
      rw [work, hleft]
      exact burst_slices_of_any id _ 0 left hany
    simp only [run, execution, spawn, hburst, finish]
    rfl
  have hzero : j.sliceEnd start 0 = start := by simp [sliceEnd]
  obtain ⟨y, hobey, hy⟩ := obey_of_run rfl hrun rfl hstart
  refine ⟨y, hobey.trans ?_, hy⟩
  have hmore : 0 < j.steps := hsteps
  rw [stopLine, if_pos hmore, hzero, List.map_cons, List.map_singleton, List.singleton_append]

/-- Slices that take no time are over before any signal comes. -/
theorem obey_of_instant (hstart : ∀ e ∈ σ, start ≤ e.1) (hd : j.slice.nanos = 0) :
    ∃ y, (j.execution id {}).obey σ start
        = (j.progress start 1 j.steps ++ [(j.sliceEnd start j.steps, .report .finishedOk none)], y)
      ∧ y.phase = .ended := by
  have hrun : (j.execution id {}).run start j.work
      = ({ j.execution id {} with phase := .ended },
        (List.range' 1 j.steps).map (fun i => .log (stepLine i j.steps)) ++
          [.report .finishedOk none]) := by
    have hburst : j.work.burst id {}
        = ((List.range' 1 j.steps).map (stepLine · j.steps), .ended .completed) :=
      burst_slices_of_instant id j.steps 0 j.steps rfl hd
    simp only [run, execution, spawn, hburst, finish, List.map_map]
    rfl
  have hend : ∀ i, j.sliceEnd start i = start := by
    intro i
    simp [sliceEnd, Duration.timerMillis, nanosPerMilli, hd]
  obtain ⟨y, hobey, hy⟩ := obey_of_run rfl hrun rfl hstart
  refine ⟨y, hobey.trans ?_, hy⟩
  simp [progress, hend]

/-- Without a signal the first step begins the first slice. -/
theorem runUntil_execution (hsteps : 1 ≤ j.steps) (hd : j.slice.nanos ≠ 0) (limit : Nat) :
    (j.execution id {}).runUntil (j.execution id {}).stepBound limit start
      = (j.asleep id start 0 {}).runUntil (4 * j.steps + 5) limit start := by
  obtain ⟨left, hleft⟩ := Nat.exists_eq_add_of_le' hsteps
  have hburst : j.work.burst id {} = ([], .pausing j.slice (.slept j.slice j.steps 0 left)) := by
    have hquiet := burst_slices_of_quiet id j.steps 0 left (s := {}) rfl hd
    rw [work]
    rwa [hleft] at hquiet ⊢
  have hrun : (j.execution id {}).run start j.work = (j.asleep id start 0 {}, []) := by
    simp only [run, execution, spawn, hburst, asleep, sliceEnd, hleft]
    simp
  have hbound : (j.execution id {}).stepBound = 4 * j.steps + 5 + 1 := by
    simp only [stepBound, execution, spawn, work, Work.size]
    omega
  rcases hlater : (j.asleep id start 0 {}).runUntil (4 * j.steps + 5) limit start with ⟨effects, x⟩
  rw [hbound, runUntil_ready rfl, hrun]
  simp only [hlater, List.map_nil, List.nil_append]

/-- A sleep that hears nothing before its end is complete. -/
theorem obey_complete (hsteps : 1 ≤ j.steps) (hd : j.slice.nanos ≠ 0)
    (hlate : ∀ e ∈ σ, j.sliceEnd start j.steps ≤ e.1) :
    ∃ y, (j.execution id {}).obey σ start
        = (j.progress start 1 j.steps ++ [(j.sliceEnd start j.steps, .report .finishedOk none)], y)
      ∧ y.phase = .ended := by
  obtain ⟨left, hleft⟩ := Nat.exists_eq_add_of_le' hsteps
  have hfuel : 2 * (left + 1) ≤ 4 * j.steps + 5 := by omega
  have hrun := j.runUntil_complete id start hd left hfuel (by omega) (j.start_lt_sliceEnd start hd)
    le_rfl
  rw [← j.runUntil_execution id start hsteps hd, ← hleft] at hrun
  exact obey_of_runUntil hrun rfl hlate

/-- Up to the slice of the first signal the sleep is not disturbed. -/
theorem obey_eq_asleep {sent q : Nat} {signal : Signal} (hsteps : 1 ≤ j.steps)
    (hd : j.slice.nanos ≠ 0) (hq : q < j.steps) (hlow : j.sliceEnd start q ≤ sent)
    (hhigh : sent < j.sliceEnd start (q + 1)) :
    (j.execution id {}).obey ((sent, signal) :: σ) start
      = (j.progress start 1 q ++
          ((j.asleep id start q {}).obey ((sent, signal) :: σ) (j.sliceEnd start q)).1,
        ((j.asleep id start q {}).obey ((sent, signal) :: σ) (j.sliceEnd start q)).2) := by
  have hfuel : 2 * q ≤ 4 * j.steps + 5 := by omega
  have hlow' : j.sliceEnd start (0 + q) ≤ sent := by rwa [Nat.zero_add]
  have hhigh' : sent < j.sliceEnd start (0 + q + 1) := by rwa [Nat.zero_add]
  have hrun := j.runUntil_progress id start hd q hfuel (by omega) (j.start_lt_sliceEnd start hd)
    hlow' hhigh'
  have hnow := j.sliceEnd_lt_succ start hd q
  have hasleep : (j.asleep id start q {}).runUntil (j.asleep id start q {}).stepBound sent
      (j.sliceEnd start q) = ([], j.asleep id start q {}) :=
    runUntil_pausing_of_lt rfl rfl hnow hhigh
  rw [obey, obey, runUntil_execution j id start hsteps hd, hrun, hasleep]
  simp

end Beginning

/-- The slice that an instant is in. -/
theorem exists_slice (hd : j.slice.nanos ≠ 0) {time : Nat} (htime : start ≤ time) :
    ∃ q, j.sliceEnd start q ≤ time ∧ time < j.sliceEnd start (q + 1) := by
  have hpos := j.timerMillis_pos hd
  have hdiv := Nat.div_add_mod' (time - start) j.slice.timerMillis
  have hmod := Nat.mod_lt (time - start) hpos
  refine ⟨(time - start) / j.slice.timerMillis, ?_, ?_⟩
  · rw [sliceEnd]
    omega
  · rw [sliceEnd_succ, sliceEnd]
    omega

/-! ### How a sleep goes -/

/-- How a sleep went: how many slices were over, whether the job stopped before its last slice, and
when and how it ended. -/
structure Course where
  done : Nat
  stopped : Bool
  last : Nat
  status : Status
  message : Option String
deriving DecidableEq, Repr

/-- The effects of a sleep: a line for each slice that was over, a line if the job stopped, and the
report. -/
def Course.effects (c : Course) : List Timed :=
  j.progress start 1 c.done ++
    (if c.stopped then [(j.sliceEnd start c.done, .log (stoppedLine c.done j.steps))] else []) ++
    [(c.last, .report c.status c.message)]

/-- A signal is noticed when some slices are over. -/
def Noticed (before : Signals) (σ : List (Nat × Signal)) (done : Nat) : Prop :=
  before.any = true ∨ ∃ e ∈ σ, e.1 < j.sliceEnd start done

/-- A sleep went as the signals want it that came before it and while it lasted. -/
structure Course.Fits (before : Signals) (σ : List (Nat × Signal)) (c : Course) : Prop where
  done_le : c.done ≤ j.steps
  stopped_iff : c.stopped = true ↔ c.done < j.steps ∧ j.Noticed start before σ c.done
  /-- Without a signal up to the end all slices are over. -/
  undisturbed : before.any = false → (∀ e ∈ σ, c.last < e.1) →
    c = ⟨j.steps, false, j.sliceEnd start j.steps, .finishedOk, none⟩
  /-- With nothing but cancels up to the end, the slice of the first of them is finished. -/
  canceled : before.interrupted = false → (∀ e ∈ σ, e.1 ≤ c.last → e.2 = .cancel) →
    (before.canceled = true ∨ ∃ e ∈ σ, e.1 ≤ c.last) →
    c.last = j.sliceEnd start c.done ∧ c.status = .canceled ∧ c.message = none
      ∧ (before.canceled = true ∧ c.done = 0
        ∨ ∃ e ∈ σ, ∃ q, c.done = q + 1 ∧ j.sliceEnd start q ≤ e.1 ∧ e.1 < j.sliceEnd start (q + 1)
          ∧ ∀ e' ∈ σ, e.1 ≤ e'.1)
  /-- The first interrupt ends the slice that it comes in, if that slice was begun. -/
  interrupted : ∀ i q, (i, .interrupt) ∈ σ → (∀ i', (i', .interrupt) ∈ σ → i ≤ i') →
    ¬ j.Noticed start before σ q → q < j.steps → j.sliceEnd start q ≤ i →
    i < j.sliceEnd start (q + 1) → c = ⟨q, false, i, .failover, some interruptedMessage⟩

section Fits

variable {before : Signals} {σ : List (Nat × Signal)} {q : Nat}

theorem fits_of_any (hsteps : 1 ≤ j.steps) (hany : before.any = true) :
    Course.Fits j start before σ ⟨0, true, start, (Ending.completed.report before).1,
      (Ending.completed.report before).2⟩ where
  done_le := Nat.zero_le _
  stopped_iff := ⟨fun _ => ⟨hsteps, .inl hany⟩, fun _ => rfl⟩
  undisturbed := by
    intro hquiet
    rw [hany] at hquiet
    cases hquiet
  canceled := by
    intro hint _ _
    have hcanceled : before.canceled = true := by simpa [Signals.any, hint] using hany
    refine ⟨by simp [sliceEnd], ?_, ?_, .inl ⟨hcanceled, rfl⟩⟩ <;>
    · simp [Ending.report, hint, hcanceled]
  interrupted := fun _ _ _ _ hunnoticed => absurd (.inl hany) hunnoticed

theorem fits_complete (hlate : ∀ e ∈ σ, j.sliceEnd start j.steps < e.1) :
    Course.Fits j start {} σ ⟨j.steps, false, j.sliceEnd start j.steps, .finishedOk, none⟩ where
  done_le := le_rfl
  stopped_iff := by simp
  undisturbed := fun _ _ => rfl
  canceled := by
    rintro _ _ (hcanceled | ⟨e, he, hearly⟩)
    · cases hcanceled
    · exact absurd (hlate e he) (Nat.not_lt.mpr hearly)
  interrupted := by
    intro i q hi _ _ hq _ hearly
    have hend := j.sliceEnd_le start (show q + 1 ≤ j.steps from hq)
    exact absurd (hlate _ hi) (by omega)

/-- In the slice of the first signal nothing was noticed before. -/
theorem not_noticed_of_first {sent : Nat} (hfirst : ∀ e ∈ σ, sent ≤ e.1)
    (hlow : j.sliceEnd start q ≤ sent) : ¬ j.Noticed start {} σ q := by
  rintro (hany | ⟨e, he, hearly⟩)
  · cases hany
  · exact absurd (hfirst e he) (by omega)

/-- Only one slice is begun without a signal and hears one. -/
theorem eq_of_slice {q' sent i : Nat} {signal : Signal} (hmem : (sent, signal) ∈ σ)
    (hlow : j.sliceEnd start q ≤ sent) (hsent : sent ≤ i)
    (hunnoticed : ¬ j.Noticed start {} σ q') (hhigh : sent < j.sliceEnd start (q + 1))
    (hhigh' : i < j.sliceEnd start (q' + 1)) :
    q = q' := by
  have hlate : j.sliceEnd start q' ≤ sent := by
    by_contra hearly
    exact hunnoticed (.inr ⟨_, hmem, by simpa using hearly⟩)
  rcases Nat.lt_trichotomy q q' with hlt | heq | hgt
  · have hend := j.sliceEnd_le start (show q + 1 ≤ q' from hlt)
    omega
  · exact heq
  · have hend := j.sliceEnd_le start (show q' + 1 ≤ q from hgt)
    omega

section FirstSignal

variable {sent : Nat} {signal : Signal} (hmem : (sent, signal) ∈ σ)
  (hfirst : ∀ e ∈ σ, sent ≤ e.1) (hq : q < j.steps) (hlow : j.sliceEnd start q ≤ sent)
  (hhigh : sent < j.sliceEnd start (q + 1))
include hmem hfirst hq hlow hhigh

theorem fits_interrupted {i : Nat} (hi : (i, .interrupt) ∈ σ)
    (hmin : ∀ i', (i', .interrupt) ∈ σ → i ≤ i') :
    Course.Fits j start {} σ ⟨q, false, i, .failover, some interruptedMessage⟩ where
  done_le := hq.le
  stopped_iff := by
    simpa using fun _ => j.not_noticed_of_first start hfirst hlow
  undisturbed := fun _ hlate => absurd (hlate _ hi) (lt_irrefl _)
  canceled := fun _ hcancels => nomatch hcancels _ hi le_rfl
  interrupted := by
    intro i' q' hi' hmin' hunnoticed _ _ hhigh'
    obtain rfl : i = i' := Nat.le_antisymm (hmin i' hi') (hmin' i hi)
    rw [j.eq_of_slice start hmem hlow (hfirst _ hi) hunnoticed hhigh hhigh']

theorem fits_canceled (hcancels : ∀ e ∈ σ, e.1 < j.sliceEnd start (q + 1) → e.2 = .cancel) :
    Course.Fits j start {} σ
      ⟨q + 1, decide (q + 1 < j.steps), j.sliceEnd start (q + 1), .canceled, none⟩ where
  done_le := hq
  stopped_iff := by
    have hnoticed : j.Noticed start {} σ (q + 1) := .inr ⟨_, hmem, hhigh⟩
    simp [hnoticed]
  undisturbed := fun _ hlate => absurd (hlate _ hmem) (Nat.not_lt.mpr hhigh.le)
  canceled := fun _ _ _ => ⟨rfl, rfl, rfl, .inr ⟨_, hmem, q, rfl, hlow, hhigh, hfirst⟩⟩
  interrupted := by
    intro i q' hi _ hunnoticed _ _ hhigh'
    obtain rfl := j.eq_of_slice start hmem hlow (hfirst _ hi) hunnoticed hhigh hhigh'
    cases hcancels _ hi hhigh'

end FirstSignal

end Fits

/-- The course of a sleep whose first signal comes while slices are left. -/
theorem exists_course_of_signal {sent : Nat} {signal : Signal} {σ : List (Nat × Signal)}
    (hsteps : 1 ≤ j.steps) (hd : j.slice.nanos ≠ 0)
    (hsorted : ((sent, signal) :: σ).Pairwise fun a b => a.1 ≤ b.1) (hstart : start ≤ sent)
    (hapart : ∀ e ∈ (sent, signal) :: σ, ∀ i, 1 ≤ i → i ≤ j.steps → e.1 ≠ j.sliceEnd start i)
    (hbefore : sent < j.sliceEnd start j.steps) :
    ∃ (c : Course) (y : Execution),
      (j.execution id {}).obey ((sent, signal) :: σ) start = (c.effects j start, y)
        ∧ y.phase = .ended ∧ c.Fits j start {} ((sent, signal) :: σ) := by
  have hfirst : ∀ e ∈ (sent, signal) :: σ, sent ≤ e.1 :=
    List.forall_mem_cons.mpr ⟨le_rfl, (List.pairwise_cons.mp hsorted).1⟩
  have hmem : (sent, signal) ∈ (sent, signal) :: σ := List.mem_cons_self
  obtain ⟨q, hlow, hhigh⟩ := j.exists_slice start hd hstart
  have hq : q < j.steps := by
    by_contra hnot
    have hend := j.sliceEnd_le start (show j.steps ≤ q by omega)
    omega
  have hnow := j.sliceEnd_lt_succ start hd q
  rw [j.obey_eq_asleep id start hsteps hd hq hlow hhigh]
  rcases j.obey_lastSlice id start (s := {}) rfl hq hnow hsorted
      (fun e he => hapart e he (q + 1) (by omega) hq) (.inr ⟨_, hmem, hhigh⟩) with
    ⟨i, y, hi, -, hmin, hobey, hy⟩ | ⟨hcancels, y, hobey, hy⟩
  · refine ⟨_, y, ?_, hy, j.fits_interrupted start hmem hfirst hq hlow hhigh hi hmin⟩
    rw [hobey]
    simp [Course.effects]
  · refine ⟨_, y, ?_, hy, j.fits_canceled start hmem hfirst hq hlow hhigh hcancels⟩
    rw [hobey]
    have hlines := j.progress_add start 1 q 1
    rw [Nat.add_comm 1 q] at hlines
    simp [Course.effects, hlines, stopLine]

/-- **A sleep under signals.** Whatever signals come and whenever, but for the very milliseconds at
which slices end, the execution ends. Its lines are those about the first slices, in order and each
at the end of its slice, then at most one about a stop, and it is there exactly if slices are left
and a signal was noticed before the next of them. Without a signal all slices are over and the task
is done. If it hears of nothing but cancels, the slice in progress is finished and the task is
canceled. If it is interrupted while it sleeps in a slice, it stops at that moment, without a line
about it, and the task fails over. -/
theorem sleeps_slice_by_slice {σ : List (Nat × Signal)} (before : Signals) (hsteps : 1 ≤ j.steps)
    (hsorted : σ.Pairwise fun a b => a.1 ≤ b.1) (hstart : ∀ e ∈ σ, start ≤ e.1)
    (hapart : ∀ e ∈ σ, ∀ i, 1 ≤ i → i ≤ j.steps → e.1 ≠ j.sliceEnd start i) :
    ∃ (c : Course) (y : Execution), (j.execution id before).obey σ start = (c.effects j start, y)
      ∧ y.isAlive = false ∧ c.Fits j start before σ := by
  have hended : ∀ y : Execution, y.phase = .ended → y.isAlive = false := by
    intro y hy
    simp [isAlive, hy]
  cases hany : before.any with
  | true =>
    obtain ⟨y, hobey, hy⟩ := j.obey_of_any id start hsteps hstart hany
    refine ⟨_, y, hobey.trans ?_, hended y hy, j.fits_of_any start hsteps hany⟩
    have hmore : 0 < j.steps := hsteps
    simp [Course.effects, progress, stopLine, hmore]
  | false =>
    obtain rfl : before = {} := by
      obtain ⟨hcanceled, hint⟩ := Bool.or_eq_false_iff.mp hany
      cases before
      cases hcanceled
      cases hint
      rfl
    by_cases hd : j.slice.nanos = 0
    -- All slices end at the start, where no signal comes.
    · have hlate : ∀ e ∈ σ, j.sliceEnd start j.steps < e.1 := by
        intro e he
        have hne := hapart e he j.steps hsteps le_rfl
        have hle := hstart e he
        have hend : j.sliceEnd start j.steps = start := by
          simp [sliceEnd, Duration.timerMillis, nanosPerMilli, hd]
        omega
      obtain ⟨y, hobey, hy⟩ := j.obey_of_instant id start hstart hd
      refine ⟨_, y, hobey.trans ?_, hended y hy, j.fits_complete start hlate⟩
      simp [Course.effects]
    by_cases hlate : ∀ e ∈ σ, j.sliceEnd start j.steps < e.1
    · obtain ⟨y, hobey, hy⟩ := j.obey_complete id start hsteps hd fun e he => (hlate e he).le
      refine ⟨_, y, hobey.trans ?_, hended y hy, j.fits_complete start hlate⟩
      simp [Course.effects]
    cases σ with
    | nil => exact absurd (by simp) hlate
    | cons e σ =>
      obtain ⟨sent, signal⟩ := e
      have hbefore : sent < j.sliceEnd start j.steps := by
        by_contra hnot
        refine hlate fun e he => lt_of_le_of_ne ?_ (hapart e he j.steps hsteps le_rfl).symm
        have hle : ∀ e ∈ (sent, signal) :: σ, sent ≤ e.1 :=
          List.forall_mem_cons.mpr ⟨le_rfl, (List.pairwise_cons.mp hsorted).1⟩
        have hle := hle e he
        omega
      obtain ⟨c, y, hobey, hy, hfits⟩ := j.exists_course_of_signal id start hsteps hd hsorted
        (hstart _ List.mem_cons_self) hapart hbefore
      exact ⟨c, y, hobey, hended y hy, hfits⟩

/-- Three slices of ten milliseconds. An interrupt ends the second of them. -/
theorem sleeps_slice_by_slice_interrupted :
    let j : SleepJob := ⟨.ofMillis 30, 3⟩
    let run := (j.execution "t" {}).obey [(12, .interrupt), (25, .cancel)] 0
    run.1 = [(10, .log "Step 1/3 done"), (12, .report .failover (some interruptedMessage))]
      ∧ run.2.isAlive = false := by
  intro j run
  obtain ⟨c, y, hrun, hended, hfits⟩ := j.sleeps_slice_by_slice "t" 0
    (σ := [(12, .interrupt), (25, .cancel)]) {} (by decide) (by decide) (by decide)
    (by decide +kernel)
  have hunnoticed : ¬ j.Noticed 0 {} [(12, .interrupt), (25, .cancel)] 1 := by
    have hend : j.sliceEnd 0 1 = 10 := by decide
    simp [Noticed, Signals.any, hend]
  have hc : c = ⟨1, false, 12, .failover, some interruptedMessage⟩ :=
    hfits.interrupted 12 1 (by decide) (by simp) hunnoticed (by decide) (by decide) (by decide)
  have heffects : Course.effects j 0 ⟨1, false, 12, .failover, some interruptedMessage⟩
      = [(10, .log "Step 1/3 done"), (12, .report .failover (some interruptedMessage))] := by
    decide +kernel
  rw [hc, heffects] at hrun
  exact ⟨congrArg Prod.fst hrun, (congrArg (·.2.isAlive) hrun).trans hended⟩

end SleepJob

end TaskCluster
