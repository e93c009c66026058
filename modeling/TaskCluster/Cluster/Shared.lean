import TaskCluster.Job.Execution
import TaskCluster.Store.Basic

/-!
# What the nodes share

The nodes of a cluster share a store, a clock and, in this model, one list of all runs that were
ever started. A run is an execution of a claimed task. What it logs and reports goes to the store
over the connection of the node that started it, and its report counts only while the record still
runs under its claim. Runs are known by their place in the list, so a runner may lose sight of a run
that goes on.
-/

namespace TaskCluster

/-- An execution of a claimed task. -/
structure Run where
  claim : Claim
  execution : Execution
  /-- The connection that it logs and reports over. -/
  connection : Nat
deriving DecidableEq, Repr

/-- Ids that are numbered: 32 decimal digits. -/
def taskId (n : Nat) : String :=
  let digits := toString n
  String.ofList (List.replicate (32 - digits.length) '0') ++ digits

/-- The store with its connections, the runs and the time. -/
structure Shared where
  store : Store
  connections : List Connection := []
  /-- All runs in the order of their start. -/
  runs : List Run := []
  /-- What the clock shows. -/
  clock : ClockTime
  /-- The milliseconds that timers have counted. -/
  timer : Nat := 0
  /-- Does the clock go on while timers count? -/
  ticking : Bool := true
  /-- How many tasks were created. -/
  created : Nat := 0
  /-- The id of the `n`-th task. The ids come from outside. -/
  supply : Nat → String := taskId

namespace Shared

/-! ### Calls of the store -/

def connection (s : Shared) (k : Nat) : Connection := s.connections[k]?.getD {}

/-- Adds a connection, with its number. -/
def connect (s : Shared) (k : Connection) : Nat × Shared :=
  (s.connections.length, { s with connections := s.connections ++ [k] })

/-- Sets the operations that fail on a connection. -/
def setFailing (s : Shared) (k : Nat) (failing : List Operation) : Shared :=
  { s with connections := s.connections.modify k fun c => { c with failing } }

/-- Answers a call over a connection, now. -/
def call (s : Shared) (k : Nat) (c : Call) : Except Abort c.Result × Shared :=
  let (result, connection, store) := s.store.call s.clock (s.connection k) c
  (result, { s with store, connections := s.connections.set k connection })

/-- Stores a new task and answers its id. -/
def create (s : Shared) (k : Nat) (taskType : String) (config : Config) :
    Except Abort String × Shared :=
  let id := s.supply (s.created + 1)
  match s.call k (.create id taskType config) with
  | (.ok _, s) => (.ok id, { s with created := s.created + 1 })
  | (.error e, s) => (.error e, s)

/-! ### Runs -/

/-- Starts a run, with its number. -/
def spawn (s : Shared) (run : Run) : Nat × Shared :=
  (s.runs.length, { s with runs := s.runs ++ [run] })

/-- Changes the execution of a run. -/
def signal (s : Shared) (n : Nat) (f : Execution → Execution) : Shared :=
  { s with runs := s.runs.modify n fun run => { run with execution := f run.execution } }

/-- Has a run not ended? -/
def isAlive (s : Shared) (n : Nat) : Bool := s.runs[n]?.any fun run => run.execution.isAlive

/-- The signals that a run sees. -/
def signals (s : Shared) (n : Nat) : Signals :=
  match s.runs[n]? with
  | some run => run.execution.signals
  | none => {}

/-- Carries out an effect of a run. A store that refuses is of no concern to the run. -/
def effect (s : Shared) (run : Run) : Effect → Shared
  | .log line => (s.call run.connection (.log run.execution.task line)).2
  | .report status message =>
    (s.call run.connection (.changeFor run.execution.task run.claim status message)).2

/-- Makes the step of a run that is due. -/
def stepRun (s : Shared) (n : Nat) : Shared :=
  match s.runs[n]? with
  | none => s
  | some run =>
    let (execution, effects) := run.execution.step s.timer
    effects.foldl (fun s e => s.effect run e) (s.signal n fun _ => execution)

/-- Makes every step that is due, run by run. -/
def stepRuns (s : Shared) : Shared := (List.range s.runs.length).foldl stepRun s

/-- Lets the timers count, and the clock go on unless it stands still. -/
def pass (s : Shared) (millis : Nat) : Shared :=
  { s with
    timer := s.timer + millis
    clock := if s.ticking then s.clock.advance millis else s.clock }

/-- The times at which runs wake up. -/
def wakeTimes (s : Shared) : List Nat := s.runs.filterMap fun run => run.execution.wakesAt

end Shared

end TaskCluster
