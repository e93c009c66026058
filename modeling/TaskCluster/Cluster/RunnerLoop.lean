import TaskCluster.Cluster.Runner

/-!
# The loop of a runner

A loop waits for a moment, then iterates with a pause in between that a notification cuts short. When
it is asked to stop it interrupts its runs and gives them some time to end; after that it no longer
tracks them. An overflow in an iteration ends the loop at once.
-/

namespace TaskCluster

/-- Where a loop stands. -/
inductive LoopPhase where
  | idle
  /-- Before the first iteration. -/
  | starting (till : Nat)
  /-- Between two iterations. -/
  | waiting (till : Nat)
  /-- Waiting for interrupted runs to end. -/
  | stopping (till : Nat) (runs : List Nat)
  | ended
deriving DecidableEq, Repr

/-- A runner with its loop. -/
structure RunnerLoop where
  runner : Runner
  phase : LoopPhase := .idle
  /-- Was the loop asked to stop? -/
  stopped : Bool := false
deriving DecidableEq, Repr

namespace RunnerLoop

/-- Starts the loop. -/
def start (l : RunnerLoop) (s : Shared) : RunnerLoop :=
  { l with
    phase := .starting (s.timer + l.runner.settings.startupDelay.timerMillis)
    stopped := false }

/-- Is the loop at work? -/
def isActive (l : RunnerLoop) : Bool :=
  match l.phase with
  | .idle | .ended => false
  | _ => true

/-- Asks the loop to stop. -/
def stop (l : RunnerLoop) : RunnerLoop := { l with stopped := true }

/-- Tells the runner that a new task is there. -/
def notify (l : RunnerLoop) : RunnerLoop := { l with runner := { l.runner with notified := true } }

/-- The pause between two iterations. -/
def pause (l : RunnerLoop) : Nat := max 1 l.runner.settings.wait.timerMillis

/-- Iterates once. -/
def iterateOnce (registry : Registry) (l : RunnerLoop) (s : Shared) : RunnerLoop × Shared :=
  let (overflow, runner, s) := l.runner.runOnce registry s
  let phase : LoopPhase := if overflow.isSome then .ended else .waiting (s.timer + l.pause)
  ({ l with runner, phase }, s)

/-- Iterates, and once more if the runner was told of a new task before. -/
def iterate (registry : Registry) (l : RunnerLoop) (s : Shared) : RunnerLoop × Shared :=
  let (l, s) := l.iterateOnce registry s
  if l.isActive && l.runner.notified then
    { l with runner := { l.runner with notified := false } }.iterateOnce registry s
  else (l, s)

/-- Interrupts the runs and begins to wait for them. -/
def windDown (l : RunnerLoop) (s : Shared) : RunnerLoop × Shared :=
  let (any, s) := l.runner.interruptAll s
  if any then
    let till := s.timer + l.runner.settings.shutdownGrace.timerMillis
    let runs := l.runner.tracked.map Prod.snd
    ({ l with runner := { l.runner with tracked := [] }, phase := .stopping till runs }, s)
  else ({ l with phase := .ended }, s)

/-- Does what is due before the runs make their steps. -/
def step (registry : Registry) (l : RunnerLoop) (s : Shared) : RunnerLoop × Shared :=
  match l.phase with
  | .starting till =>
    if l.stopped then l.windDown s
    else if till ≤ s.timer then l.iterate registry s
    else (l, s)
  | .waiting till =>
    if l.stopped then l.windDown s
    else if l.runner.notified then
      { l with runner := { l.runner with notified := false } }.iterate registry s
    else if till ≤ s.timer then l.iterate registry s
    else (l, s)
  | _ => (l, s)

/-- Ends the loop when its runs have ended or their time is over. -/
def settle (l : RunnerLoop) (s : Shared) : RunnerLoop :=
  match l.phase with
  | .stopping till runs =>
    if till ≤ s.timer || !runs.any s.isAlive then { l with phase := .ended } else l
  | _ => l

/-- The next time at which the loop does something by itself. -/
def dueTime (l : RunnerLoop) : Option Nat :=
  match l.phase with
  | .starting till | .waiting till | .stopping till _ => some till
  | .idle | .ended => none

end RunnerLoop

end TaskCluster
