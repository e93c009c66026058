import TaskCluster.Failure
import TaskCluster.Job.Registry
import TaskCluster.Record.Basic

/-!
# Calls of a store

A store of records answers calls. `Call` has one constructor for each, and `Call.Result` is what a
call answers when it succeeds. A history of a store is a list of calls with their times, so what
holds of every history is an induction over such a list.
-/

namespace TaskCluster

/-- Which records a listing shows, newest first. -/
structure Listing where
  /-- Only tasks of this type; a blank text does not filter. -/
  taskType : Option String := none
  /-- Only tasks in one of these statuses; none does not filter. -/
  statuses : List Status := []
  /-- How many records are passed over. -/
  start : Nat := 0
  /-- How many records are shown at most; zero sets no bound. -/
  size : Nat := 0
deriving DecidableEq, Repr

namespace Listing

/-- The type that is asked for, without the white space around it. -/
def typeFilter (l : Listing) : Option String :=
  (l.taskType.map Text.trim).filter fun t => !t.isEmpty

/-- Does the filter let a type and a status through? -/
def admits (l : Listing) (taskType : String) (status : Status) : Bool :=
  l.typeFilter.all (fun t => t == taskType) && (l.statuses.isEmpty || l.statuses.contains status)

/-- The part of a listing that is shown. -/
def page {α : Type} (l : Listing) (items : List α) : List α :=
  if l.size = 0 then items.drop l.start else (items.drop l.start).take l.size

end Listing

/-- A call of a store. -/
inductive Call where
  /-- Stores a new task under an id. -/
  | create (id taskType : String) (config : Config)
  | list (l : Listing)
  | get (id : String)
  /-- Asks a task to stop; false if it is unknown, was asked before or has ended. -/
  | requestCancel (id : String)
  /-- Changes a status; false if the task is unknown or the change is not allowed. -/
  | change (id : String) (status : Status) (message : Option String)
  /-- The same, but only while the record runs under a claim. -/
  | changeFor (id : String) (claim : Claim) (status : Status) (message : Option String)
  /-- Adds a line to the log of a task. -/
  | log (id line : String)
  /-- Starts a run of the oldest task that may run on a node now. -/
  | claim (node : String)
  /-- Refreshes the runs that a node owns and lists, and fails over the stale others. -/
  | heartbeat (node : String) (ids : List String) (timeout : Duration)

/-- What a call answers when it succeeds. -/
@[reducible] def Call.Result : Call → Type
  | .create .. | .log .. | .heartbeat .. => Unit
  | .list _ => List Record
  | .get _ | .claim _ => Option Record
  | .requestCancel _ | .change .. | .changeFor .. => Bool

/-- What the clock shows when a call looks at the record of an id. A call that looks at several
records reads the clock anew for each of them. -/
abbrev Readings := String → ClockTime

/-- The kinds of calls. -/
inductive Operation where
  | create
  | list
  | get
  | requestCancel
  | change
  | changeFor
  | log
  | claim
  | heartbeat
deriving DecidableEq, Repr

def Call.operation : Call → Operation
  | .create .. => .create
  | .list _ => .list
  | .get _ => .get
  | .requestCancel _ => .requestCancel
  | .change .. => .change
  | .changeFor .. => .changeFor
  | .log .. => .log
  | .claim _ => .claim
  | .heartbeat .. => .heartbeat

namespace Operation

/-- All kinds of calls. -/
def all : List Operation :=
  [.create, .list, .get, .requestCancel, .change, .changeFor, .log, .claim, .heartbeat]

/-- The name of an operation in messages. -/
def name : Operation → String
  | .create => "create_task"
  | .list => "list_tasks"
  | .get => "get_task_status_info"
  | .requestCancel => "mark_task_to_be_cancelled"
  | .change => "change_task_status"
  | .changeFor => "change_task_status_for_run"
  | .log => "write_task_log"
  | .claim => "get_task_to_run"
  | .heartbeat => "heartbeat"

/-- The operation of a name. -/
def ofName? (s : String) : Option Operation := all.find? fun op => op.name == s

end Operation

end TaskCluster
