import TaskCluster.Record.Basic
import TaskCluster.Store.Cell

/-!
# Rows

A row keeps a record in the columns of a table. Times are kept as whole milliseconds, rounded down,
so a row reads back as the record with its times cut to milliseconds. The text columns hold texts
alone; what stands in a whole-number column may be unreadable.
-/

namespace TaskCluster

structure Row where
  id : String
  taskType : String
  config : Option String
  status : String
  createdAt : Cell
  startedAt : Cell
  finishedAt : Cell
  runCount : Cell
  node : Option String
  heartbeat : Cell
  cancelRequested : Cell
  log : Option String
deriving DecidableEq, Repr

/-! ### Columns -/

namespace Column

def status : Column := ⟨3, "status"⟩
def createdAt : Column := ⟨4, "created_at_ms"⟩
def startedAt : Column := ⟨5, "last_run_started_at_ms"⟩
def finishedAt : Column := ⟨6, "last_run_finished_at_ms"⟩
def runCount : Column := ⟨7, "run_count"⟩
def heartbeat : Column := ⟨9, "heartbeat_ms"⟩
def cancelRequested : Column := ⟨10, "cancel_requested"⟩

end Column

namespace Cell

/-- The milliseconds of a time. -/
def ofTime (t : Instant) : Cell := .int (Int64.ofInt t.millis)

def ofTime? : Option Instant → Cell
  | none => .null
  | some t => ofTime t

def ofCounter (n : UInt32) : Cell := .int (Int64.ofNat n.toNat)

def ofFlag (b : Bool) : Cell := .int (if b then 1 else 0)

end Cell

namespace Row

/-- The row of a new record. -/
def ofRecord (r : Record) : Row where
  id := r.id
  taskType := r.taskType
  config := r.config
  status := r.status.name
  createdAt := Cell.ofTime r.createdAt
  startedAt := Cell.ofTime? r.startedAt
  finishedAt := Cell.ofTime? r.finishedAt
  runCount := Cell.ofCounter r.runCount
  node := r.node
  heartbeat := .int r.heartbeat
  cancelRequested := Cell.ofFlag r.cancelRequested
  log := r.log

/-- The row with the columns written that may change: all but the id, the type, the configuration
and the time of creation. -/
def write (row : Row) (r : Record) : Row :=
  { row with
    status := r.status.name
    startedAt := Cell.ofTime? r.startedAt
    finishedAt := Cell.ofTime? r.finishedAt
    runCount := Cell.ofCounter r.runCount
    node := r.node
    heartbeat := .int r.heartbeat
    cancelRequested := Cell.ofFlag r.cancelRequested
    log := r.log }

/-- The status that a row names. -/
def readStatus (row : Row) : Except DatabaseFault Status :=
  match Status.parse row.status with
  | .ok s => .ok s
  | .error e => .error (.unknownStatus Column.status.index e.text)

/-- The record that a row keeps. The status is read first, then the columns in their order. -/
def read (row : Row) : Except DatabaseFault Record := do
  let status ← row.readStatus
  let createdAt ← Column.createdAt.time row.createdAt
  let startedAt ← Column.startedAt.time? row.startedAt
  let finishedAt ← Column.finishedAt.time? row.finishedAt
  let runCount ← Column.runCount.counter row.runCount
  let heartbeat ← Column.heartbeat.int row.heartbeat
  let cancelRequested ← Column.cancelRequested.flag row.cancelRequested
  .ok {
    id := row.id
    taskType := row.taskType
    config := row.config
    status, createdAt, startedAt, finishedAt, runCount
    node := row.node
    heartbeat, cancelRequested
    log := row.log }

end Row

end TaskCluster
