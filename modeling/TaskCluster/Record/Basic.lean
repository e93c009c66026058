import TaskCluster.Failure
import TaskCluster.Json.Reader
import TaskCluster.Record.Log
import TaskCluster.Settings
import TaskCluster.Status

/-!
# Records of tasks

A record is what the store knows about a task: what to run, where it stands, and the run that it
has or had last. The functions here are the only ways in which a record changes; a store adds
locking and storage to them.

A run is named by its `Claim`: the node that claimed the task and the value of the run counter that
the claim produced. A report about a run counts only while the record still runs under its claim.
-/

namespace TaskCluster

/-- One run of a task: the node that claimed it and the run counter after the claim. -/
structure Claim where
  node : String
  runCount : UInt32
deriving DecidableEq, Repr

structure Record where
  id : String
  taskType : String
  /-- The configuration of the task as JSON text. -/
  config : Option String
  status : Status
  createdAt : Instant
  startedAt : Option Instant
  finishedAt : Option Instant
  /-- How many times the task was started. -/
  runCount : UInt32
  /-- The node that the task runs on, or ran on last. -/
  node : Option String
  /-- When the task gave its last sign of life, in milliseconds since the epoch. -/
  heartbeat : Int64
  cancelRequested : Bool
  log : Option String
deriving DecidableEq

namespace Record

/-- A task nobody has claimed yet. -/
def fresh (id taskType : String) (config : Option Json.Object) (now : Instant) : Record where
  id := id
  taskType := taskType
  config := config.map fun fields => (Json.Value.obj fields).compact
  status := .new
  createdAt := now
  startedAt := none
  finishedAt := none
  runCount := 0
  node := none
  heartbeat := 0
  cancelRequested := false
  log := none

/-- The stored configuration, read again. -/
def parseConfig (r : Record) : Except Json.Error (Option Json.Object) :=
  match r.config with
  | none => .ok none
  | some text => (Json.Object.parse text).map some

/-- The run that the record is at, or was at last. -/
def claim? (r : Record) : Option Claim := r.node.map fun node => ⟨node, r.runCount⟩

/-- Does the record still run under the claim? -/
def isRunningUnder (r : Record) (c : Claim) : Bool :=
  r.status == .running && r.runCount == c.runCount && r.node == some c.node

/-- Adds a line to the log. -/
def appendLog (r : Record) (line : String) : Record := { r with log := Log.append r.log line }

/-! ### Starting a run -/

/-- What became of an attempt to start a run. -/
inductive Start where
  | started
  | refused
  /-- The counter of runs was at its limit. -/
  | overflowed
deriving DecidableEq, Repr

/-- The line about a task that was lost too often. -/
def tooManyAttempts : String := "Cancelled due too much failover attempts"

/-- The record at the beginning of a run, but for the counter and what is written after it. -/
def begun (r : Record) (now : Instant) : Record :=
  { r with status := .running, startedAt := some now, finishedAt := none }

/-- The record in a run on a node. -/
def running (r : Record) (node : String) (now : Instant) : Record :=
  { r with
    status := .running
    startedAt := some now
    finishedAt := none
    runCount := r.runCount + 1
    node := some node
    heartbeat := Int64.ofInt now.millis }

/-- Starts a run on a node. A task that was asked to stop, or that was lost too often, is canceled
instead. -/
def start (r : Record) (node : String) (maxAttempts : UInt32) (now : Instant) : Start × Record :=
  if !r.status.isRunnable then (.refused, r)
  else if r.cancelRequested then (.refused, { r with status := .canceled })
  else if r.status = .failover ∧ maxAttempts ≤ r.runCount then
    (.refused, { r with status := .canceled }.appendLog tooManyAttempts)
  else if r.runCount.toNat + 1 < UInt32.size then (.started, r.running node now)
  else (.overflowed, r.begun now)

/-- May the task be started on a node now? A new task may. A task that was lost once on another node
may move at once; any other waits for its cool-down since the last run ended. -/
def isRunnableNow (r : Record) (node : String) (policy : FailoverPolicy) (now : Instant) : Bool :=
  match r.status with
  | .new => true
  | .failover =>
    if r.runCount ≤ 1 ∧ r.node ≠ some node then true
    else
      match r.finishedAt with
      | none => true
      | some finished => (policy.cooldown r.runCount).clockMillis ≤ now.millisSince finished
  | _ => false

/-- What a claim scan makes of a record. -/
inductive Offer where
  /-- The record may not be started now. -/
  | passed
  /-- The task is canceled instead of started. -/
  | canceled (r : Record)
  | taken (r : Record)
  /-- The counter of runs was at its limit; the record as far as it got. -/
  | overflowed (r : Record)
deriving DecidableEq

/-- Offers a record to a node that looks for a task to run. -/
def offer (r : Record) (node : String) (policy : FailoverPolicy) (now : Instant) : Offer :=
  if r.isRunnableNow node policy now then
    match r.start node policy.maxAttempts now with
    | (.started, begun) => .taken begun
    | (.refused, canceled) => .canceled canceled
    | (.overflowed, part) => .overflowed part
  else .passed

/-! ### Changing the status -/

/-- The record with a status that the transition table allows; leaving a run sets its end. -/
def moved (r : Record) (next : Status) (message : Option String) (now : Instant) : Record :=
  { r with
    status := next
    log := Log.append? r.log message
    finishedAt := if r.status = .running then some now else r.finishedAt }

/-- Changes the status if the transition table allows it. -/
def changeStatus (r : Record) (next : Status) (message : Option String) (now : Instant) :
    Bool × Record :=
  if r.status.canChangeTo next then (true, r.moved next message now) else (false, r)

/-- Changes the status if the record still runs under the claim and the transition table allows
it. -/
def changeStatusFor (r : Record) (c : Claim) (next : Status) (message : Option String)
    (now : Instant) : Bool × Record :=
  if r.isRunningUnder c then r.changeStatus next message now else (false, r)

/-- Asks the task to stop; false if it was asked before or has ended. -/
def requestCancel (r : Record) : Bool × Record :=
  if r.cancelRequested || !r.status.isCancelable then (false, r)
  else (true, { r with cancelRequested := true })

/-! ### Heartbeats -/

/-- What a heartbeat sweep did to a record. -/
inductive Sweep where
  | refreshed
  | failedOver
  | untouched
deriving DecidableEq, Repr

/-- A number of milliseconds moved into the range of 64 bits. -/
def clampMillis (n : Int) : Int := max Int64.minValue.toInt (min n Int64.maxValue.toInt)

/-- Is the last sign of life older than the timeout? -/
def isStale (r : Record) (timeout : Duration) (now : Instant) : Bool :=
  r.heartbeat.toInt < clampMillis (now.millis - timeout.clockMillis)

/-- The line about a run that was given up. -/
def staleMessage (r : Record) (node : String) (now : Instant) : String :=
  "Failover necessity detected by node '" ++ node ++ "' at " ++ toString now.millis ++
    " due heartbeat timestamp " ++ toString r.heartbeat.toInt

/-- The part of a heartbeat sweep of a node that concerns one record: a run that the node owns and
lists is refreshed, any other stale run fails over. -/
def checkHeartbeat (r : Record) (node : String) (ids : List String) (timeout : Duration)
    (now : Instant) : Sweep × Record :=
  if r.status ≠ .running then (.untouched, r)
  else if ids.contains r.id ∧ r.node = some node then
    (.refreshed, { r with heartbeat := Int64.ofInt now.millis })
  else if r.isStale timeout now then
    let changed := r.changeStatus .failover (some (r.staleMessage node now)) now
    if changed.1 then (.failedOver, changed.2) else (.untouched, changed.2)
  else (.untouched, r)

end Record

end TaskCluster
