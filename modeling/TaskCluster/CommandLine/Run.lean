import TaskCluster.Cluster.Basic
import TaskCluster.CommandLine.Disk
import TaskCluster.CommandLine.Output

/-!
# Carrying out commands

A command opens its database, does its work through a manager of its own, and ends with an exit code
and what it says. Code 0 is success, 1 a failure, 2 a command line that is refused.
-/

namespace TaskCluster.CommandLine

/-- How a command ends. -/
structure Outcome where
  code : Nat := 0
  stdout : String := ""
  stderr : String := ""
deriving DecidableEq, Repr

namespace Outcome

/-- The end with an error in its diagnostic form. -/
def failed (diagnostic : String) : Outcome := { code := 1, stderr := "Error: " ++ diagnostic }

/-- The end of a call that has no result. -/
def aborted : Abort → Outcome
  | .failure f => failed f.diagnostic
  | .overflow o => { code := 101, stderr := o.message }

/-- The end by a refusal. -/
def refused (r : Refusal) : Outcome :=
  if r.isAnswer then { stdout := lines [r.message] } else { code := 2, stderr := r.message }

end Outcome

/-- What commands find and leave behind. -/
structure Session where
  disk : Disk := {}
  clock : ClockTime
  /-- How many tasks were created. -/
  created : Nat := 0

namespace Session

/-- What is shared on a database in a session. -/
def share (s : Session) (db : Database) (settings : StoreSettings) : Shared :=
  { store := .database db, connections := [{ settings }], clock := s.clock, created := s.created }

/-- The session with a database as it was left. -/
def leave (s : Session) (disk : Disk) (place : Place) (shared : Shared) : Session :=
  match shared.store with
  | .database db => { s with disk := disk.save place db, created := shared.created }
  | .memory _ => s

/-- The manager that commands work through. -/
def manager : Manager := { node := "cli", connection := 0 }

/-- The outcome of a call. -/
def outcome {α : Type} (show_ : α → Outcome) : Except Abort α → Outcome
  | .ok a => show_ a
  | .error e => .aborted e

/-- Does the work of a command on what it shares. -/
def perform (format : Format) (command : TaskCommand) (s : Shared) : Outcome × Shared :=
  match command with
  | .types => ({ stdout := showTypes format Registry.builtin.types }, s)
  | .create taskType config =>
    match Config.parse config with
    | .error e => (.failed e.diagnostic, s)
    | .ok config =>
      let (result, _, s) := manager.create .builtin taskType config s
      (outcome (fun id => { stdout := showCreated format id }) result, s)
  | .status id =>
    let (result, s) := manager.get id s
    let shown : Option Record → Outcome
      | none => .failed (Text.quote ("Task not found: " ++ id))
      | some r => { stdout := showRecord format r }
    (outcome shown result, s)
  | .list l =>
    let (result, s) := manager.list l s
    (outcome (fun rs => { stdout := showRecords format rs }) result, s)
  | .cancel id =>
    let (result, s) := manager.cancel id s
    (outcome (fun canceled => { stdout := showCanceled format id canceled }) result, s)

/-- Carries out a command on a database. -/
def runTask (s : Session) (database : String) (format : Format) (command : TaskCommand) :
    Outcome × Session :=
  match s.disk.openDatabase database with
  | .error f => (.failed f.diagnostic, s)
  | .ok (place, db, disk) =>
    let (outcome, shared) := perform format command (s.share db {})
    (outcome, s.leave disk place shared)

/-! ### A node -/

/-- The node that a server runs. -/
def serverNode (a : ServerArguments) : Node :=
  { manager := { node := a.node, settings := a.runner, connection := 0 }
    spare := { runner := { node := a.node, settings := a.runner, connection := 0 } } }

/-- Have all tasks ended for good? -/
def allEnded (c : Cluster) : Bool :=
  match (c.shared.call 0 (.list {})).1 with
  | .ok rs => rs.all fun r => r.status.isTerminal
  | .error _ => false

/-- The milliseconds after which a node is stopped in any case. -/
def maxServing : Nat := 86400000

/-- Runs a node, while the clock stands still, until all tasks have ended, and stops it. -/
def serve (a : ServerArguments) (s : Shared) : Shared :=
  let c : Cluster := { shared := { s with ticking := false }, nodes := [serverNode a] }
  let c := (c.start 0).settle
  let c := c.passTo allEnded (c.shared.timer + maxServing) c.shared.timer
  (c.stop 0).shared

/-- Runs a node on its database until all tasks have ended. -/
def runServer (s : Session) (a : ServerArguments) : Outcome × Session :=
  match s.disk.openDatabase a.database with
  | .error f => (.failed f.diagnostic, s)
  | .ok (place, db, disk) =>
    match db.opened a.store with
    | .error o => (.aborted (.overflow o), { s with disk })
    | .ok db => ({}, s.leave disk place (serve a (s.share db a.store)))

/-- Carries out a command line. -/
def run (s : Session) (args : List String) : Outcome × Session :=
  match Invocation.parse args with
  | .error refusal => (.refused refusal, s)
  | .ok (.task database format command) => s.runTask database format command
  | .ok (.server a) => s.runServer a

end Session

end TaskCluster.CommandLine
