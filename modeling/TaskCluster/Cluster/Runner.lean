import TaskCluster.Cluster.Shared

/-!
# The runner of a node

A runner starts tasks on its node, as many as it has room for. It tracks the runs that it started
under the ids of their tasks, passes requests to cancel on to them, and interrupts those that no
longer own their record. Its heartbeat keeps its own runs fresh and gives up stale runs of others.

`runOnce` is one iteration: cancel requests, heartbeat, forgetting what has ended, starting tasks. A
failure ends the step that meets it and no other; an overflow ends the runner.
-/

namespace TaskCluster

structure Runner where
  /-- The node that it claims tasks for. -/
  node : String
  settings : RunnerSettings := {}
  /-- The connection that it calls the store over. -/
  connection : Nat
  /-- The runs that it tracks, by the ids of their tasks. -/
  tracked : List (String × Nat) := []
  /-- When its last heartbeat succeeded. -/
  lastHeartbeat : Option Nat := none
  /-- Was it told that a new task is there? -/
  notified : Bool := false
deriving DecidableEq, Repr

namespace Runner

/-- The run that is tracked under an id. -/
def find? (r : Runner) (id : String) : Option Nat :=
  (r.tracked.find? fun t => t.1 == id).map Prod.snd

/-- Tracks a run, in place of any other of that task. -/
def track (r : Runner) (id : String) (n : Nat) : Runner :=
  if r.tracked.any fun t => t.1 == id then
    { r with tracked := r.tracked.map fun t => if t.1 = id then (id, n) else t }
  else { r with tracked := r.tracked ++ [(id, n)] }

/-- The ids of the tracked tasks. -/
def ids (r : Runner) : List String := r.tracked.map Prod.fst

/-! ### Signals to runs -/

/-- Asks a run to cancel and interrupts it. -/
def cancelRun (s : Shared) (n : Nat) : Shared :=
  s.signal n fun x => x.cancel.interrupt

/-- Cancels the run of a task if it is tracked here and has not ended. -/
def cancelTask (r : Runner) (id : String) (s : Shared) : Shared :=
  match r.find? id with
  | none => s
  | some n => if s.isAlive n then cancelRun s n else s

/-- What a look at the record of a run calls for: a request to cancel is passed on, and a run that
lost its record is interrupted. -/
def relay (record : Option Record) (n : Nat) (s : Shared) : Shared :=
  match s.runs[n]?, record with
  | none, _ => s
  | some _, none => s.signal n Execution.interrupt
  | some run, some record =>
    if record.cancelRequested then cancelRun s n
    else if record.isRunningUnder run.claim then s
    else s.signal n Execution.interrupt

/-- Looks at the records of some runs, one after the other. -/
def relayAll (connection : Nat) : List (String × Nat) → Shared → Except Abort Unit × Shared
  | [], s => (.ok (), s)
  | (id, n) :: rest, s =>
    match s.call connection (.get id) with
    | (.error e, s) => (.error e, s)
    | (.ok record, s) => relayAll connection rest (relay record n s)

/-- The tracked runs that go on undisturbed. -/
def undisturbed (r : Runner) (s : Shared) : List (String × Nat) :=
  r.tracked.filter fun t => s.isAlive t.2 && !(s.signals t.2).any

/-- Looks at the records of all runs that go on undisturbed. -/
def relayCancels (r : Runner) (s : Shared) : Except Abort Unit × Shared :=
  relayAll r.connection (r.undisturbed s) s

/-- Interrupts all tracked runs that have not ended; false if there is none. -/
def interruptAll (r : Runner) (s : Shared) : Bool × Shared :=
  let alive := r.tracked.filter fun t => s.isAlive t.2
  (!alive.isEmpty, alive.foldl (fun s t => s.signal t.2 Execution.interrupt) s)

/-! ### Heartbeats -/

/-- Keeps the tracked runs fresh and gives up stale runs of others. -/
def heartbeat (r : Runner) (s : Shared) : Except Abort Unit × Runner × Shared :=
  match r.settings.failoverTimeout? with
  | none => (.error (.overflow .duration), r, s)
  | some timeout =>
    match s.call r.connection (.heartbeat r.node r.ids timeout) with
    | (.error e, s) => (.error e, r, s)
    | (.ok _, s) => (.ok (), { r with lastHeartbeat := some s.timer }, s)

/-- Is it time for a heartbeat? -/
def isHeartbeatDue (r : Runner) (s : Shared) : Bool :=
  match r.lastHeartbeat with
  | none => true
  | some last => r.settings.heartbeatPeriod.nanos ≤ (s.timer - last) * nanosPerMilli

def heartbeatIfDue (r : Runner) (s : Shared) : Except Abort Unit × Runner × Shared :=
  if r.isHeartbeatDue s then r.heartbeat s else (.ok (), r, s)

/-! ### Starting tasks -/

/-- Forgets the runs that have ended. -/
def forgetEnded (r : Runner) (s : Shared) : Runner :=
  { r with tracked := r.tracked.filter fun t => s.isAlive t.2 }

/-- Has the runner no room for another run? -/
def isFull (r : Runner) : Bool := r.settings.maxRunning ≤ r.tracked.length

/-- The work of a claimed task. -/
def instantiate (registry : Registry) (record : Record) : Except Failure Work :=
  match record.parseConfig with
  | .error e => .error (.serialization e)
  | .ok config => registry.create record.taskType config

/-- The line about a claimed task whose work cannot be made. -/
def cannotStart (f : Failure) : String := "ERROR: Task can't be started: " ++ f.message

/-- Starts the run of a claimed task and tracks it. -/
def launch (r : Runner) (record : Record) (claim : Claim) (work : Work) (s : Shared) :
    Runner × Shared :=
  let (n, s) := s.spawn ⟨claim, Execution.spawn record.id work, r.connection⟩
  (r.track record.id n, s)

/-- Claims and starts tasks while there is room and a task to run, at most `fuel` of them. A task
whose work cannot be made ends with an error. -/
def startUpTo (registry : Registry) : Nat → Runner → Shared → Except Abort Unit × Runner × Shared
  | 0, r, s => (.ok (), r, s)
  | fuel + 1, r, s =>
    if r.isFull then (.ok (), r, s)
    else
      match s.call r.connection (.claim r.node) with
      | (.error e, s) => (.error e, r, s)
      | (.ok none, s) => (.ok (), r, s)
      | (.ok (some record), s) =>
        match record.claim? with
        | none => startUpTo registry fuel r s
        | some claim =>
          match instantiate registry record with
          | .ok work =>
            let (r, s) := r.launch record claim work s
            startUpTo registry fuel r s
          | .error f =>
            match s.call r.connection
                (.changeFor record.id claim .finishedError (some (cannotStart f))) with
            | (.error e, s) => (.error e, r, s)
            | (.ok _, s) => startUpTo registry fuel r s

/-- Claims and starts tasks while there is room and a task to run. No record is claimed twice, so
their number is bound enough. -/
def startTasks (registry : Registry) (r : Runner) (s : Shared) :
    Except Abort Unit × Runner × Shared :=
  startUpTo registry (s.store.size + 1) r s

/-! ### Iterations -/

/-- The overflow of a step, if it ended with one. A failure is passed over. -/
def overflow? {α : Type} : Except Abort α → Option Overflow
  | .error (.overflow o) => some o
  | _ => none

/-- One iteration. -/
def runOnce (registry : Registry) (r : Runner) (s : Shared) : Option Overflow × Runner × Shared :=
  let (relayed, s) := r.relayCancels s
  match overflow? relayed with
  | some o => (some o, r, s)
  | none =>
    let (beaten, r, s) := r.heartbeatIfDue s
    match overflow? beaten with
    | some o => (some o, r, s)
    | none =>
      let (started, r, s) := (r.forgetEnded s).startTasks registry s
      (overflow? started, r, s)

end Runner

end TaskCluster
