import TaskCluster.Cluster.RunnerLoop

/-!
# The manager of a node

The manager is how a node is talked to: it validates and stores new tasks, answers questions about
tasks, asks tasks to stop, and starts and stops the runner of the node.
-/

namespace TaskCluster

structure Manager where
  node : String
  settings : RunnerSettings := {}
  /-- The connection that it calls the store over. -/
  connection : Nat
  /-- The loop of the runner while it is started. -/
  loop : Option RunnerLoop := none
deriving DecidableEq, Repr

namespace Manager

/-- Is the runner started? -/
def isRunning (m : Manager) : Bool := m.loop.isSome

/-- Starts the runner; nothing happens if it is started. -/
def start (m : Manager) (s : Shared) : Manager :=
  match m.loop with
  | some _ => m
  | none =>
    let runner : Runner := { node := m.node, settings := m.settings, connection := m.connection }
    { m with loop := some ((RunnerLoop.mk runner .idle false).start s) }

/-- Asks the runner to stop. -/
def requestStop (m : Manager) : Manager := { m with loop := m.loop.map RunnerLoop.stop }

/-- Lets go of a runner that has stopped. -/
def release (m : Manager) : Manager := { m with loop := none }

/-- Validates and stores a new task and answers its id. A task that its type rejects is not
stored. -/
def create (registry : Registry) (m : Manager) (taskType : String) (config : Config) (s : Shared) :
    Except Abort String × Manager × Shared :=
  match registry.create taskType config with
  | .error f => (.error (.failure f), m, s)
  | .ok _ =>
    match s.create m.connection taskType config with
    | (.error e, s) => (.error e, m, s)
    | (.ok id, s) => (.ok id, { m with loop := m.loop.map RunnerLoop.notify }, s)

/-- The record of a task. -/
def get (m : Manager) (id : String) (s : Shared) : Except Abort (Option Record) × Shared :=
  s.call m.connection (.get id)

/-- The records of a listing. -/
def list (m : Manager) (l : Listing) (s : Shared) : Except Abort (List Record) × Shared :=
  s.call m.connection (.list l)

/-- Asks a task to stop; false if it cannot be canceled any more. A run of it on this node hears of
it at once. -/
def cancel (m : Manager) (id : String) (s : Shared) : Except Abort Bool × Shared :=
  if Text.isBlank id then (.ok false, s)
  else
    match s.call m.connection (.requestCancel id) with
    | (.ok true, s) =>
      match m.loop with
      | none => (.ok true, s)
      | some loop => (.ok true, loop.runner.cancelTask id s)
    | (result, s) => (result, s)

end Manager

end TaskCluster
