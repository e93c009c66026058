import TaskCluster.Job.Work

/-!
# Executions

An execution runs the work of a job for one task. It does what the job demands until the job waits
or ends (`Work.burst`), and when it ends it reports exactly one status. Whoever runs it applies the
effects and tells it the time.
-/

namespace TaskCluster

/-- What an execution does to the outside. -/
inductive Effect where
  /-- Writes a line to the log of the task. -/
  | log (line : String)
  /-- Reports the final status of the task. -/
  | report (status : Status) (message : Option String)
deriving DecidableEq, Repr

/-- Why a job makes no step at the moment. -/
inductive Halt where
  | pausing (d : Duration) (rest : Work)
  | blocking (d : Duration) (rest : Work)
  | awaiting (rest : Work)
  | ended (e : Ending)
deriving DecidableEq, Repr

/-- Runs a job until it waits or ends, with the lines that it writes. An interrupt that is there
already ends a pause at once. -/
def Work.burst (id : String) (s : Signals) (w : Work) : List String × Halt :=
  match _h : w.next id s with
  | .write line rest =>
    let behind := burst id s rest
    (line :: behind.1, behind.2)
  | .goOn rest => burst id s rest
  | .pause d rest =>
    if s.interrupted then ([], .ended (.failed .interrupted))
    else if d.nanos = 0 then burst id s rest
    else ([], .pausing d rest)
  | .block d rest =>
    if _hd : d.nanos = 0 then burst id s rest else ([], .blocking d rest)
  | .awaitInterrupt rest => if s.interrupted then burst id s rest else ([], .awaiting rest)
  | .finish e => ([], .ended e)
termination_by w.size
decreasing_by
  all_goals
    refine @Work.next_size_lt id s _ _ ?_
    rw [_h]
    simp [Demand.immediate?]
  assumption

/-- Where an execution stands. -/
inductive Phase where
  /-- It makes a step as soon as it can. -/
  | ready (work : Work)
  /-- It sleeps up to a time; an interrupt ends the job. -/
  | pausing (till : Nat) (work : Work)
  /-- It sleeps up to a time. -/
  | blocking (till : Nat) (work : Work)
  | awaiting (work : Work)
  | ended
deriving DecidableEq, Repr

/-- An execution of a job for a task. -/
structure Execution where
  task : String
  signals : Signals := {}
  phase : Phase
deriving DecidableEq, Repr

namespace Execution

/-- An execution that has not made a step. -/
def spawn (task : String) (work : Work) : Execution := { task, phase := .ready work }

/-- Has the execution not ended? -/
def isAlive (x : Execution) : Bool := x.phase != .ended

/-- Asks the job to cancel. -/
def cancel (x : Execution) : Execution := { x with signals := { x.signals with canceled := true } }

/-- Interrupts the job. -/
def interrupt (x : Execution) : Execution :=
  { x with signals := { x.signals with interrupted := true } }

/-- Tells the execution a signal. -/
def receive (x : Execution) : Signal → Execution
  | .cancel => x.cancel
  | .interrupt => x.interrupt

/-- Does the execution make a step at this time? -/
def isDue (x : Execution) (time : Nat) : Bool :=
  match x.phase with
  | .ready _ => true
  | .pausing till _ => x.signals.interrupted || till ≤ time
  | .blocking till _ => till ≤ time
  | .awaiting _ => x.signals.interrupted
  | .ended => false

/-- The time at which the execution makes a step if no signal comes before. -/
def wakesAt (x : Execution) : Option Nat :=
  match x.phase with
  | .pausing till _ | .blocking till _ => some till
  | _ => none

/-- Ends the execution and reports the status. -/
def finish (x : Execution) (e : Ending) : Execution × Effect :=
  let (status, message) := e.report x.signals
  ({ x with phase := .ended }, .report status message)

/-- Runs the job from some work on. -/
def run (x : Execution) (time : Nat) (work : Work) : Execution × List Effect :=
  let (lines, halt) := work.burst x.task x.signals
  let logs := lines.map Effect.log
  match halt with
  | .pausing d rest => ({ x with phase := .pausing (time + d.timerMillis) rest }, logs)
  | .blocking d rest => ({ x with phase := .blocking (time + d.timerMillis) rest }, logs)
  | .awaiting rest => ({ x with phase := .awaiting rest }, logs)
  | .ended e =>
    let (x, report) := x.finish e
    (x, logs ++ [report])

/-- Makes the step that is due, with its effects in order; none if no step is due. -/
def step (x : Execution) (time : Nat) : Execution × List Effect :=
  match x.phase with
  | .ready work => x.run time work
  | .pausing till work =>
    if x.signals.interrupted then
      let (x, report) := x.finish (.failed .interrupted)
      (x, [report])
    else if till ≤ time then x.run time work
    else (x, [])
  | .blocking till work => if till ≤ time then x.run time work else (x, [])
  | .awaiting work => if x.signals.interrupted then x.run time work else (x, [])
  | .ended => (x, [])

/-- An effect with its time. -/
abbrev Timed := Nat × Effect

/-- Runs the execution alone up to a time, at most `fuel` steps. -/
def runUntil : Nat → Nat → Nat → Execution → List Timed × Execution
  | 0, _, _, x => ([], x)
  | fuel + 1, limit, time, x =>
    if x.isDue time then
      let (x, effects) := x.step time
      let (later, x) := runUntil fuel limit time x
      (effects.map (time, ·) ++ later, x)
    else
      match x.wakesAt with
      | none => ([], x)
      | some wake => if wake ≤ limit then runUntil fuel limit (max time wake) x else ([], x)

/-- Runs the execution alone for as long as time alone makes it step, at most `fuel` steps; with the
time at which it stops. -/
def runOut : Nat → Nat → Execution → List Timed × Nat × Execution
  | 0, time, x => ([], time, x)
  | fuel + 1, time, x =>
    if x.isDue time then
      let (x, effects) := x.step time
      let (later, last, x) := runOut fuel time x
      (effects.map (time, ·) ++ later, last, x)
    else
      match x.wakesAt with
      | none => ([], time, x)
      | some wake => runOut fuel (max time wake) x

/-- The steps that the execution can still make alone, waking up included. -/
def stepBound (x : Execution) : Nat :=
  match x.phase with
  | .ready work | .pausing _ work | .blocking _ work | .awaiting work => 2 * work.size + 4
  | .ended => 0

end Execution

end TaskCluster
