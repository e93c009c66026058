import TaskCluster.Store.Table

/-!
# A store in a database

Every write runs in a transaction under the one write lock of the database: it takes effect as a
whole or, when it ends without a result, not at all. While another connection holds the lock, a
write gives up; a call that can be left out for once then answers as if it had found nothing to do.
-/

namespace TaskCluster

/-- A database with the table of tasks. -/
structure Database where
  table : Table := {}
  /-- Does another connection hold the write lock? -/
  locked : Bool := false

/-- Work on a table that ends with a result and a new table, or without both. -/
abbrev Transaction (α : Type) := Table → Except Abort (α × Table)

/-- A fault of the database as the end of a call. -/
def DatabaseFault.abort (f : DatabaseFault) : Abort := .failure (.storage f)

/-- A result, or the end of a call by a fault of the database. -/
def orFault {α : Type} : Except DatabaseFault α → Except Abort α
  | .ok a => .ok a
  | .error f => .error f.abort

namespace Transaction

/-- Adds a record. -/
def insert (r : Record) : Transaction Unit := fun t => do
  .ok ((), ← orFault (t.insert (Row.ofRecord r)))

/-- Adds a record, or writes it over the one of its id with its time of creation; the type and the
configuration of that one stay. -/
def put (r : Record) : Transaction Unit := fun t =>
  match t.find? r.id with
  | none => insert r t
  | some _ =>
    .ok ((), (t.update r).modify r.id fun row =>
      { row with createdAt := Cell.ofTime r.createdAt })

/-- Changes the record of an id; none if it is unknown. The row is written only if `f` says that the
record changed. -/
def change {α : Type} (id : String) (f : Record → Bool × α × Record) : Transaction (Option α) :=
  fun t =>
    match t.find? id with
    | none => .ok (none, t)
    | some row => do
      let r ← orFault row.read
      let (changed, a, new) := f r
      .ok (some a, if changed then t.update new else t)

/-- The same for a change that answers whether it was made. -/
def changeIf (id : String) (f : Record → Bool × Record) : Transaction Bool := fun t => do
  let (done, t) ← change id (fun r => let (done, new) := f r; (done, done, new)) t
  .ok (done.getD false, t)

/-- Adds a line to the log of a task. -/
def log (id line : String) : Transaction Unit := fun t => do
  let add (r : Record) : Bool × Unit × Record :=
    let new := r.appendLog line
    (new.log != r.log, (), new)
  match ← change id add t with
  | (some _, t) => .ok ((), t)
  | (none, _) => .error (.failure (.taskNotFound id))

/-- Offers records to a node, one after the other, until it takes one. -/
def offerAll (node : String) (policy : FailoverPolicy) (clock : Readings) :
    List Record → Transaction (Option Record)
  | [], t => .ok (none, t)
  | r :: rs, t =>
    match r.offer node policy (clock r.id).toInstant with
    | .passed => offerAll node policy clock rs t
    | .canceled new => offerAll node policy clock rs (t.update new)
    | .taken new => .ok (some new, t.update new)
    | .overflowed _ => .error (.overflow .counter)

/-- The records in one of some statuses, oldest first. All of them must be readable. -/
def records (statuses : List Status) (t : Table) : Except Abort (List Record) :=
  orFault ((t.inStatus statuses).mapM Row.read)

/-- Starts a run of the oldest task that may run on a node now. -/
def claim (node : String) (policy : FailoverPolicy) (clock : Readings) :
    Transaction (Option Record) := fun t => do
  offerAll node policy clock (← records [.new, .failover] t) t

/-- The part of a heartbeat sweep that concerns one record. -/
def sweepOne (node : String) (listed : List String) (timeout : Duration) (clock : Readings)
    (t : Table) (r : Record) : Table :=
  match r.checkHeartbeat node listed timeout (clock r.id).toInstant with
  | (.untouched, _) => t
  | (_, new) => t.update new

/-- Sweeps all records in a run. -/
def heartbeat (node : String) (listed : List String) (timeout : Duration) (clock : Readings) :
    Transaction Unit := fun t => do
  .ok ((), (← records [.running] t).foldl (sweepOne node listed timeout clock) t)

end Transaction

namespace Database

/-- The milliseconds for which a writer can wait for the write lock at most. -/
def maxLockMillis : Nat := Nat.pow 2 31 - 1

/-- A database as it is opened with some settings. -/
def opened (d : Database) (settings : StoreSettings) : Except Overflow Database :=
  if settings.lockTimeout.millis ≤ maxLockMillis then .ok d else .error .lockTimeout

/-- Runs a transaction. Under a lock it is not begun, and `busy` tells how the call ends. -/
def write {α : Type} (d : Database) (busy : Except Abort α) (work : Transaction α) :
    Except Abort α × Database :=
  if d.locked then (busy, d)
  else
    match work d.table with
    | .ok (a, table) => (.ok a, { d with table })
    | .error e => (.error e, d)

/-- The end of a call that cannot wait for the lock of a task any longer. -/
def lockTimeout {α : Type} (id : String) : Except Abort α := .error (.failure (.lockTimeout id))

/-- The end of a call that finds the database locked. -/
def isLocked {α : Type} : Except Abort α := .error DatabaseFault.locked.abort

/-- The record of an id. -/
def get (d : Database) (id : String) : Except Abort (Option Record) :=
  match d.table.find? id with
  | none => .ok none
  | some row => orFault (row.read.map some)

/-- The records of a listing, newest first. All of those shown must be readable. -/
def list (d : Database) (l : Listing) : Except Abort (List Record) :=
  orFault ((d.table.select l).mapM Row.read)

/-- Stores a record as it is. -/
def put (d : Database) (r : Record) : Except Abort Unit × Database :=
  d.write isLocked (Transaction.put r)

/-- Sets a cell of the row of an id, past all rules of the store. -/
def setCell (d : Database) (id column : String) (c : Cell) : Except Abort Bool × Database :=
  d.write isLocked fun t => orFault (t.set id column c)

/-- Answers a call, with a reading of the clock for each record that it looks at. -/
def performAt (policy : FailoverPolicy) (clock : Readings) (d : Database) (c : Call) :
    Except Abort c.Result × Database :=
  match c with
  | .create id taskType config =>
    d.write isLocked
      (Transaction.insert (Record.fresh id taskType config (clock id).toInstant))
  | .list l => (d.list l, d)
  | .get id => (d.get id, d)
  | .requestCancel id => d.write (.ok false) (Transaction.changeIf id Record.requestCancel)
  | .change id status message =>
    d.write (lockTimeout id)
      (Transaction.changeIf id fun r => r.changeStatus status message (clock id).toInstant)
  | .changeFor id claim status message =>
    d.write (lockTimeout id)
      (Transaction.changeIf id fun r =>
        r.changeStatusFor claim status message (clock id).toInstant)
  | .log id line => d.write (lockTimeout id) (Transaction.log id line)
  | .claim node => d.write (.ok none) (Transaction.claim node policy clock)
  | .heartbeat node ids timeout =>
    d.write (.ok ()) (Transaction.heartbeat node ids timeout clock)

/-- Answers a call at a time. -/
def perform (policy : FailoverPolicy) (now : ClockTime) (d : Database) (c : Call) :
    Except Abort c.Result × Database :=
  d.performAt policy (fun _ => now) c

end Database

end TaskCluster
