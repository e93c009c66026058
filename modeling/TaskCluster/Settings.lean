import TaskCluster.Time.Duration

/-!
# Settings

How often and how fast lost tasks are tried again, how long a store waits for a lock, and the
timing of the runner on a node.
-/

namespace TaskCluster

/-- When tasks in failover are tried again. The cool-down grows with the number of runs that a task
already had. -/
structure FailoverPolicy where
  /-- A task in failover with this many runs is canceled instead of started again. -/
  maxAttempts : UInt32 := 100
  shortDelay : Duration := .ofSeconds 10
  /-- Up to this many runs the short delay holds. -/
  shortDelayRuns : UInt32 := 10
  mediumDelay : Duration := .ofSeconds 60
  /-- Up to this many runs, and above the short ones, the medium delay holds. -/
  mediumDelayRuns : UInt32 := 40
  longDelay : Duration := .ofSeconds 300
deriving DecidableEq, Repr

namespace FailoverPolicy

/-- The least time between the end of a run and the next start of a task with `runs` runs. -/
def cooldown (p : FailoverPolicy) (runs : UInt32) : Duration :=
  if runs ≤ p.shortDelayRuns then p.shortDelay
  else if runs ≤ p.mediumDelayRuns then p.mediumDelay
  else p.longDelay

/-- The same delay for every attempt. -/
def withFixedDelay (p : FailoverPolicy) (delay : Duration) : FailoverPolicy :=
  { p with shortDelay := delay, mediumDelay := delay, longDelay := delay }

end FailoverPolicy

/-- Settings of a store. -/
structure StoreSettings where
  /-- How long a writer waits for the lock of a record. -/
  lockTimeout : Duration := .ofSeconds 2
  failover : FailoverPolicy := {}
deriving DecidableEq, Repr

/-- Timing and capacity of the runner on a node. -/
structure RunnerSettings where
  /-- How many executions the runner tracks at once. -/
  maxRunning : Nat := 2
  /-- The pause between two iterations, which a notification cuts short. -/
  wait : Duration := .ofSeconds 2
  heartbeatPeriod : Duration := .ofSeconds 10
  /-- After this many heartbeat periods without a heartbeat a run counts as lost. -/
  failoverTimeoutFactor : UInt32 := 5
  /-- The pause before the first iteration. -/
  startupDelay : Duration := .ofSeconds 10
  /-- How long interrupted executions may take to end when the runner stops. -/
  shutdownGrace : Duration := .ofSeconds 2
deriving DecidableEq, Repr

/-- The age of a heartbeat from which on a run counts as lost; none when it is out of the range of
durations. -/
def RunnerSettings.failoverTimeout? (s : RunnerSettings) : Option Duration :=
  s.heartbeatPeriod.times? s.failoverTimeoutFactor.toNat

/-- Settings of a node of the cluster. -/
structure NodeSettings where
  /-- The name of the node, unique in the cluster. -/
  id : String := "node-1"
  runner : RunnerSettings := {}
  store : StoreSettings := {}
  /-- The database that all nodes share. -/
  database : String := "tasker.db"
  /-- Where the node answers requests, if it does. -/
  apiAddress : Option String := some "127.0.0.1:8080"
deriving DecidableEq, Repr

end TaskCluster
