import TaskCluster.Cluster.Manager

/-!
# A cluster

A cluster is some nodes on one store. Each node has a manager with its own runner and, beside it, a
runner that is driven by hand or by a loop of its own.

Whatever is due at a time happens in a fixed order (`settle`): loops iterate, then runs make their
steps, then loops that wait for runs look at them. `advance` lets time pass from one thing that is
due to the next.
-/

namespace TaskCluster

/-- A node of a cluster. -/
structure Node where
  manager : Manager
  /-- The runner beside the manager. -/
  spare : RunnerLoop
deriving DecidableEq, Repr

namespace Node

/-- Lets the loops of a node do what is due. -/
def step (registry : Registry) (n : Node) (s : Shared) : Node × Shared :=
  let (loop, s) := match n.manager.loop with
    | none => (none, s)
    | some loop =>
      let (loop, s) := loop.step registry s
      (some loop, s)
  let (spare, s) := n.spare.step registry s
  ({ manager := { n.manager with loop }, spare }, s)

/-- Lets the loops of a node look at the runs that they wait for. -/
def settle (n : Node) (s : Shared) : Node :=
  { manager := { n.manager with loop := n.manager.loop.map fun l => l.settle s }
    spare := n.spare.settle s }

/-- The times at which the loops of a node are due. -/
def dueTimes (n : Node) : List Nat :=
  (n.manager.loop.bind RunnerLoop.dueTime).toList ++ n.spare.dueTime.toList

end Node

structure Cluster where
  registry : Registry := .builtin
  shared : Shared
  nodes : List Node := []

namespace Cluster

/-- Lets the loops of some nodes do what is due, node by node. -/
def stepNodes (registry : Registry) : List Node → Shared → List Node × Shared
  | [], s => ([], s)
  | n :: ns, s =>
    let (n, s) := n.step registry s
    let (ns, s) := stepNodes registry ns s
    (n :: ns, s)

/-- Does all that is due. -/
def settle (c : Cluster) : Cluster :=
  let (nodes, shared) := stepNodes c.registry c.nodes c.shared
  let shared := shared.stepRuns
  { c with nodes := nodes.map fun n => n.settle shared, shared }

/-- The times at which something is due. -/
def dueTimes (c : Cluster) : List Nat := c.nodes.flatMap Node.dueTimes ++ c.shared.wakeTimes

/-- The least of some times that is later than a time. -/
def earliest (time : Nat) (times : List Nat) : Option Nat := (times.filter (time < ·)).min?

/-- Lets time pass from a time up to a moment, or until the cluster is as wanted. -/
def passTo (wanted : Cluster → Bool) (moment time : Nat) (c : Cluster) : Cluster :=
  if wanted c then c
  else
    match earliest time c.dueTimes with
    | none => { c with shared := c.shared.pass (moment - time) }
    | some due =>
      if _h : time < due ∧ due ≤ moment then
        passTo wanted moment due (settle { c with shared := c.shared.pass (due - time) })
      else { c with shared := c.shared.pass (moment - time) }
termination_by moment - time

/-- Lets some milliseconds pass. -/
def advance (c : Cluster) (millis : Nat) : Cluster :=
  passTo (fun _ => false) (c.shared.timer + millis) c.shared.timer c

/-- Does all that is due, then lets time pass until the loop that `loop?` finds has ended. A loop
that winds down has a time by which it ends. -/
def awaitEnd (loop? : Cluster → Option RunnerLoop) (c : Cluster) : Cluster :=
  let c := c.settle
  match (loop? c).bind RunnerLoop.dueTime with
  | none => c
  | some till => passTo (fun c => !(loop? c).any RunnerLoop.isActive) till c.shared.timer c

/-! ### Nodes -/

/-- Adds a node with a connection for its runners; a node that runs by itself has another one for
its manager, which `inject` leaves alone. -/
def join (c : Cluster) (id : String) (settings : RunnerSettings) (store : StoreSettings)
    (separate : Bool) : Cluster :=
  let (spare, shared) := c.shared.connect { settings := store }
  let (own, shared) :=
    if separate then shared.connect { settings := store } else (spare, shared)
  let node : Node :=
    { manager := { node := id, settings, connection := own }
      spare := { runner := { node := id, settings, connection := spare } } }
  { c with shared, nodes := c.nodes ++ [node] }

/-- Makes operations fail on the connections of all runners beside a manager. -/
def inject (c : Cluster) (failing : List Operation) : Cluster :=
  { c with shared :=
      c.nodes.foldl (fun s node => s.setFailing node.spare.runner.connection failing) c.shared }

/-- The number of a node. -/
def find? (c : Cluster) (id : String) : Option Nat :=
  c.nodes.findIdx? fun n => n.manager.node == id

/-- Changes a node. -/
def modify (c : Cluster) (n : Nat) (f : Node → Node) : Cluster :=
  { c with nodes := c.nodes.modify n f }

/-- The loop of the runner of a manager. -/
def managerLoop (n : Nat) (c : Cluster) : Option RunnerLoop :=
  c.nodes[n]?.bind fun node => node.manager.loop

/-- The loop beside a manager. -/
def spareLoop (n : Nat) (c : Cluster) : Option RunnerLoop := c.nodes[n]?.map Node.spare

/-- Starts the runner of a manager. -/
def start (c : Cluster) (n : Nat) : Cluster :=
  c.modify n fun node => { node with manager := node.manager.start c.shared }

/-- Stops the runner of a manager and waits until it has. -/
def stop (c : Cluster) (n : Nat) : Cluster :=
  let c := c.modify n fun node => { node with manager := node.manager.requestStop }
  let c := c.awaitEnd (managerLoop n)
  c.modify n fun node => { node with manager := node.manager.release }

/-- Starts the loop beside a manager. -/
def startSpare (c : Cluster) (n : Nat) : Cluster :=
  c.modify n fun node => { node with spare := node.spare.start c.shared }

/-- Stops the loop beside a manager and waits until it has. -/
def stopSpare (c : Cluster) (n : Nat) : Cluster :=
  let c := c.modify n fun node => { node with spare := node.spare.stop }
  c.awaitEnd (spareLoop n)

end Cluster

end TaskCluster
