import TaskCluster.Store.Database
import TaskCluster.Store.Memory

/-!
# Stores and connections

A store is a memory or a database that all nodes share. Each node calls it over a connection of its
own. A connection may have operations that fail whenever they are called. A call of a database that
overflows ends with a failure, and from then on the connection refuses every call.
-/

namespace TaskCluster

inductive Store where
  | memory (m : Memory)
  | database (d : Database)

/-- What a node calls a store over. -/
structure Connection where
  settings : StoreSettings := {}
  /-- The operations that fail. -/
  failing : List Operation := []
  /-- Has a call of the database overflowed? -/
  broken : Bool := false
deriving DecidableEq, Repr

namespace Store

/-- The failure of an operation that was told to fail. -/
def injected (op : Operation) : Failure := .internal ("injected failure of " ++ op.name)

/-- The failure of a call that overflowed in the database. -/
def overflowed (o : Overflow) : Failure :=
  .internal ("database task failed: task N panicked with message " ++ Text.quote o.message)

/-- The failure of every later call. -/
def broken : Failure := .internal "database connection poisoned"

/-- Runs a call of a database over a connection. -/
def onDatabase {α : Type} (k : Connection) (d : Database)
    (run : Database → Except Abort α × Database) : Except Abort α × Connection × Store :=
  if k.broken then (.error (.failure broken), k, .database d)
  else
    match run d with
    | (.error (.overflow o), d) =>
      (.error (.failure (overflowed o)), { k with broken := true }, .database d)
    | (result, d) => (result, k, .database d)

/-- Answers a call at a time over a connection. -/
def call (now : ClockTime) (s : Store) (k : Connection) (c : Call) :
    Except Abort c.Result × Connection × Store :=
  if k.failing.contains c.operation then (.error (.failure (injected c.operation)), k, s)
  else
    match s with
    | .memory m =>
      let (result, m) := m.perform k.settings.failover now c
      (result, k, .memory m)
    | .database d => onDatabase k d fun d => d.perform k.settings.failover now c

/-- Stores a record as it is. -/
def put (s : Store) (k : Connection) (r : Record) : Except Abort Unit × Connection × Store :=
  match s with
  | .memory m => (.ok (), k, .memory (m.put r))
  | .database d => onDatabase k d fun d => d.put r

/-- Sets a cell of the row of an id, past all rules of the store; a memory has no cells. -/
def setCell (s : Store) (k : Connection) (id column : String) (c : Cell) :
    Except Abort Bool × Connection × Store :=
  match s with
  | .memory m => (.ok false, k, .memory m)
  | .database d => onDatabase k d fun d => d.setCell id column c

/-- Lets another connection take or give back the write lock; a memory has none. -/
def setLock (s : Store) (locked : Bool) : Store :=
  match s with
  | .memory m => .memory m
  | .database d => .database { d with locked }

/-- How many records there are. -/
def size : Store → Nat
  | .memory m => m.records.length
  | .database d => d.table.rows.length

end Store

end TaskCluster
