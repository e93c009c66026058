import Mathlib
import TaskCluster.Cluster.Basic
import TaskCluster.Proofs.Cluster.Iteration

/-!
# The course of a cluster

A `Scene` is a cluster at a moment, and `Scene.Step` is what may happen next, in any order: nodes
are started, loops iterate, managers are asked to create and cancel tasks, jobs work, write to their
logs and end in any way they like, and time passes. Time waits for the loops alone: it does not pass
beyond the moment at which a loop that has iterated must do so again.

The steps leave more open than the program does. A loop may iterate at any time, since a
notification may come at any time, and a run reports its end in one step and ends in a later one.
-/

namespace TaskCluster

/-! ### What happens around iterations -/

theorem Ending.canChangeTo_report (e : Ending) (s : Signals) :
    Status.running.canChangeTo (e.report s).1 = true := by
  cases e with
  | completed =>
    dsimp only [report]
    split
    · rfl
    · split <;> rfl
  | failed error => cases error <;> rfl
  | panicked => rfl

theorem ClockTime.millis_advance_le (t : ClockTime) (millis : Nat) :
    (t.advance millis).millis ≤ t.millis + millis := by
  have hmin := t.min_le
  unfold advance clamp
  split
  · split
    · exact Int.le_refl _
    · dsimp only
      omega
  · omega

namespace Sound

variable {fleet : Nat → Option Runner} {s : Shared} {reported : List Nat} {m : Memory}

/-- A job works on. -/
theorem work (h : Sound fleet s reported m) {n : Nat} {run : Run} (hrun : s.runs[n]? = some run)
    (halive : run.execution.isAlive = true) {x : Execution} (htask : x.task = run.execution.task)
    (hx : x.isAlive = true) : Sound fleet (s.signal n fun _ => x) reported m := by
  refine h.signal fun run' hrun' => ?_
  obtain rfl := Option.some.inj (hrun.symm.trans hrun')
  exact ⟨htask, hx.trans halive.symm⟩

/-- A job writes a line to its log. -/
theorem log (h : Sound fleet s reported m) (run : Run) (line : String) :
    ∃ store m', s.effect run (.log line) = { s with store }
      ∧ Sound fleet { s with store } reported m' := by
  obtain ⟨store, heq, hsound⟩ := h.call run.connection
    (show (Call.log run.execution.task line).isQuiet = true from rfl)
  refine ⟨store, _, ?_, hsound⟩
  dsimp only [Shared.effect]
  rw [heq]

/-- A run that reports its end has no work to do any more. -/
theorem worker?_report {n : Nat} :
    s.worker? (n :: reported) = Function.update (s.worker? reported) n none := by
  funext k
  by_cases hk : k = n
  · subst hk
    rw [Function.update_self, Shared.worker?, if_pos List.mem_cons_self]
  · rw [Function.update_of_ne hk]
    unfold Shared.worker?
    by_cases hmem : k ∈ reported
    · rw [if_pos hmem, if_pos (List.mem_cons_of_mem n hmem)]
    · rw [if_neg hmem, if_neg (List.not_mem_cons_of_ne_of_not_mem hk hmem)]

/-- The report of a working run is accepted. -/
theorem report (h : Sound fleet s reported m) {n : Nat} {run : Run} (hrun : s.runs[n]? = some run)
    (halive : run.execution.isAlive = true) (hn : n ∉ reported) (e : Ending) :
    ∃ store m', s.effect run (run.execution.finish e).2 = { s with store }
      ∧ Sound fleet { s with store } (n :: reported) m' := by
  have hworker : s.worker? reported n = some (run.execution.task, run.claim) :=
    Shared.worker?_eq_some_iff.mpr ⟨hn, run, hrun, halive, rfl, rfl⟩
  obtain ⟨i, r, l, -, -, -, hlease, hof⟩ := h.owned.holder n run.execution.task run.claim hworker
  obtain ⟨store, heq, hserves⟩ := h.serves.call run.connection
    (show (Call.changeFor run.execution.task run.claim (e.report run.execution.signals).1
      (e.report run.execution.signals).2).created? = none from rfl)
  obtain ⟨-, hback⟩ := Memory.lease?_performAt_changeFor (s.policy run.connection)
    (fun _ => s.clock) hlease hof (e.canChangeTo_report run.execution.signals)
    (e.report run.execution.signals).2
  refine ⟨store, _, ?_, hserves, ?_, ?_⟩
  · unfold Execution.finish Shared.effect
    dsimp only
    rw [heq]
  · intro k hk
    rcases List.mem_cons.mp hk with rfl | hk
    · exact (List.getElem?_eq_some_iff.mp hrun).1
    · exact h.reported_lt k hk
  -- The run gives its lease back in the same call in which it reports.
  · have hfree : (m.perform (s.policy run.connection) s.clock (.changeFor run.execution.task
        run.claim (e.report run.execution.signals).1 (e.report run.execution.signals).2)).2.lease?
          = Function.update m.lease? run.execution.task none := by
      funext id
      refine (hback id).trans ?_
      by_cases hid : id = run.execution.task
      · rw [if_pos hid, hid, Function.update_self]
      · rw [if_neg hid, Function.update_of_ne hid]
    have howned := h.owned.release hworker
    unfold Shared.view at howned ⊢
    rw [hfree, worker?_report]
    exact howned

/-- A run that has reported had no work to do before it ended. -/
theorem worker?_bury {n : Nat} (hn : n ∈ reported) :
    (s.signal n fun x => { x with phase := .ended }).worker? (reported.erase n)
      = s.worker? reported := by
  funext k
  unfold Shared.worker?
  rw [Shared.getElem?_signal]
  by_cases hk : k = n
  · subst hk
    rw [if_pos hn]
    cases hrun : s.runs[k]? with
    | none => split <;> rfl
    | some run =>
      rw [Option.map_some, if_pos rfl, Option.filter_some]
      split <;> rfl
  · have hsame : (s.runs[k]?.map fun run : Run =>
        if k = n then { run with execution := { run.execution with phase := .ended } }
        else run) = s.runs[k]? := by
      cases s.runs[k]? with
      | none => rfl
      | some run => rw [Option.map_some, if_neg hk]
    rw [hsame]
    by_cases hmem : k ∈ reported
    · rw [if_pos hmem, if_pos ((List.mem_erase_of_ne hk).mpr hmem)]
    · rw [if_neg hmem, if_neg fun hk' => hmem (List.mem_of_mem_erase hk')]

/-- A run that has reported ends. -/
theorem bury (h : Sound fleet s reported m) {n : Nat} (hn : n ∈ reported) :
    Sound fleet (s.signal n fun x => { x with phase := .ended }) (reported.erase n) m := by
  refine h.of_view_eq ⟨h.serves.holds, h.serves.healthy, h.serves.unique, h.serves.unborn⟩ ?_ ?_
  · intro k hk
    dsimp only [Shared.signal]
    rw [List.length_modify]
    exact h.reported_lt k (List.mem_of_mem_erase hk)
  · unfold Shared.view
    rw [worker?_bury hn]
    rfl

/-- A task is created. -/
theorem create (h : Sound fleet s reported m) (k : Nat) (taskType : String) (config : Config) :
    ∃ s' m', s.create k taskType config = (.ok (s.supply (s.created + 1)), s')
      ∧ Sound fleet s' reported m' ∧ s'.timer = s.timer := by
  obtain ⟨store, heq, hserves⟩ := h.serves.create k taskType config
  have hlease : (m.perform (s.policy k) s.clock
      (.create (s.supply (s.created + 1)) taskType config)).2.lease? = m.lease? :=
    funext (Memory.lease?_performAt_create _ _ (h.serves.unborn _ (Nat.lt_succ_self _)) _ _)
  refine ⟨_, _, heq, h.of_view_eq hserves h.reported_lt ?_, rfl⟩
  unfold Shared.view
  rw [hlease]
  rfl

theorem timer_cancelTask (r : Runner) (id : String) (s : Shared) :
    (r.cancelTask id s).timer = s.timer := by
  unfold Runner.cancelTask
  split
  · rfl
  · split <;> rfl

/-- A manager asks a task to stop. -/
theorem cancel (h : Sound fleet s reported m) (manager : Manager) (id : String) :
    ∃ m', Sound fleet (manager.cancel id s).2 reported m'
      ∧ (manager.cancel id s).2.timer = s.timer := by
  unfold Manager.cancel
  split
  · exact ⟨m, h, rfl⟩
  obtain ⟨store, heq, hsound⟩ := h.call manager.connection
    (show (Call.requestCancel id).isQuiet = true from rfl)
  rw [heq]
  split
  case h_1 hresult =>
    obtain ⟨-, rfl⟩ := Prod.mk.inj hresult
    split
    · exact ⟨_, hsound, rfl⟩
    · exact ⟨_, hsound.cancelTask _ id, timer_cancelTask _ id _⟩
  case h_2 hresult =>
    obtain ⟨-, rfl⟩ := Prod.mk.inj hresult
    exact ⟨_, hsound, rfl⟩

/-- A runner is told something that is no business of its runs. -/
theorem notify (h : Sound fleet s reported m) {i : Nat} {r : Runner} (hi : fleet i = some r)
    (notified : Bool) :
    Sound (Function.update fleet i (some { r with notified })) s reported m where
  serves := h.serves
  reported_lt := h.reported_lt
  owned := h.owned.retrack hi rfl rfl (h.owned.ids_nodup i r hi) fun _ _ _ _ hmem => hmem

/-- A node is started under a name that no other has. -/
theorem enlist (h : Sound fleet s reported m) {i : Nat} {r : Runner} (hi : fleet i = none)
    (htracked : r.tracked = []) (hnode : ∀ j r', fleet j = some r' → r'.node ≠ r.node) :
    Sound (Function.update fleet i (some r)) s reported m where
  serves := h.serves
  reported_lt := h.reported_lt
  owned := h.owned.enlist hi htracked hnode

/-- Time passes. -/
theorem pass (h : Sound fleet s reported m) (millis : Nat) :
    Sound fleet (s.pass millis) reported m where
  serves := ⟨h.serves.holds, h.serves.healthy, h.serves.unique, h.serves.unborn⟩
  reported_lt := h.reported_lt
  owned := by
    refine h.owned.pass (Nat.le_add_right s.timer millis) ?_
    have hadvance := s.clock.millis_advance_le millis
    dsimp only [Shared.pass, Shared.view]
    split <;> omega

end Sound

/-! ### Scenes and steps -/

namespace RunnerLoop

/-- Does the loop go on iterating? -/
def isLooping (l : RunnerLoop) : Bool :=
  match l.phase with
  | .starting _ | .waiting _ => true
  | _ => false

/-- Has the loop no time between two iterations? It may neither pause nor put off a heartbeat, and
some node on the roster gives up runs after less than a millisecond. -/
def Hurried (l : RunnerLoop) (roster : List (String × RunnerSettings)) : Prop :=
  l.runner.settings.wait.nanos + l.runner.settings.heartbeatPeriod.nanos = 0
    ∧ ∃ sweeper ∈ roster, ∃ timeout ∈ sweeper.2.failoverTimeout?, timeout.millis = 0

end RunnerLoop

namespace Cluster

/-- Changes the loop of the runner of a manager. -/
def setLoop (c : Cluster) (i : Nat) (l : RunnerLoop) : Cluster :=
  c.modify i fun node => { node with manager := { node.manager with loop := some l } }

/-- The runners of the managers that are started. -/
def fleet (c : Cluster) (i : Nat) : Option Runner := (managerLoop i c).map RunnerLoop.runner

/-- The names of the nodes with their settings. -/
def roster (c : Cluster) : List (String × RunnerSettings) :=
  c.nodes.map fun node => (node.manager.node, node.manager.settings)

variable {c : Cluster} {i j : Nat}

theorem managerLoop_eq_some_iff {l : RunnerLoop} :
    managerLoop i c = some l ↔ ∃ node, c.nodes[i]? = some node ∧ node.manager.loop = some l :=
  Option.bind_eq_some_iff

theorem fleet_eq_some_iff {r : Runner} :
    c.fleet i = some r ↔ ∃ l, managerLoop i c = some l ∧ l.runner = r := Option.map_eq_some_iff

theorem getElem?_modify (f : Node → Node) :
    (c.modify i f).nodes[j]? = if i = j then c.nodes[j]?.map f else c.nodes[j]? := by
  dsimp only [modify]
  rw [List.getElem?_modify]
  split
  case isTrue hij => cases c.nodes[j]? <;> rfl
  case isFalse hij => cases c.nodes[j]? <;> rfl

/-- What is done to a node depends on that node alone. -/
theorem modify_congr {f g : Node → Node} (h : ∀ node, c.nodes[i]? = some node → f node = g node) :
    c.modify i f = c.modify i g := by
  have hnodes : (c.modify i f).nodes = (c.modify i g).nodes := by
    refine List.ext_getElem? fun j => ?_
    rw [getElem?_modify, getElem?_modify]
    split
    case isTrue hij =>
      subst hij
      cases hnode : c.nodes[i]? with
      | none => rfl
      | some node => rw [Option.map_some, Option.map_some, h node hnode]
    case isFalse => rfl
  unfold modify at hnodes ⊢
  exact congrArg (fun nodes => { c with nodes }) hnodes

theorem modify_eq_self {f : Node → Node} (h : ∀ node, c.nodes[i]? = some node → f node = node) :
    c.modify i f = c := by
  rw [modify_congr (g := id) h]
  unfold modify
  rw [List.modify_id]

theorem mem_roster {node : Node} (h : node ∈ c.nodes) :
    (node.manager.node, node.manager.settings) ∈ c.roster := List.mem_map.mpr ⟨node, h, rfl⟩

/-- A change that keeps the names and the settings of nodes keeps the roster. -/
theorem roster_modify {f : Node → Node} (hf : ∀ node, (f node).manager.node = node.manager.node
    ∧ (f node).manager.settings = node.manager.settings) : (c.modify i f).roster = c.roster := by
  refine List.ext_getElem? fun j => ?_
  unfold roster
  rw [List.getElem?_map, List.getElem?_map, getElem?_modify]
  split
  · cases hnode : c.nodes[j]? with
    | none => rfl
    | some node =>
      rw [Option.map_some, Option.map_some, Option.map_some, (hf node).1, (hf node).2]
  · rfl

theorem roster_setLoop (c : Cluster) (i : Nat) (l : RunnerLoop) :
    (c.setLoop i l).roster = c.roster := roster_modify fun _ => ⟨rfl, rfl⟩

theorem managerLoop_setLoop {node : Node} (hi : c.nodes[i]? = some node) (l : RunnerLoop) :
    managerLoop j (c.setLoop i l) = if i = j then some l else managerLoop j c := by
  unfold managerLoop setLoop
  rw [getElem?_modify]
  split
  case isTrue hij =>
    subst hij
    rw [hi]
    rfl
  case isFalse => rfl

theorem fleet_setLoop {node : Node} (hi : c.nodes[i]? = some node) (l : RunnerLoop) :
    (c.setLoop i l).fleet = Function.update c.fleet i (some l.runner) := by
  funext j
  unfold fleet
  rw [managerLoop_setLoop hi]
  by_cases hij : i = j
  · subst hij
    rw [if_pos rfl, Function.update_self]
    rfl
  · rw [if_neg hij, Function.update_of_ne fun hji => hij hji.symm]

end Cluster

/-- A cluster at a moment, with the runs that have reported their end and have not ended yet. -/
structure Scene where
  cluster : Cluster
  reported : List Nat := []

namespace Scene

/-- The scene with a change of what the nodes share. -/
def share (x : Scene) (s : Shared) : Scene := { x with cluster := { x.cluster with shared := s } }

/-- The scene with a change of a loop. -/
def setLoop (x : Scene) (i : Nat) (l : RunnerLoop) : Scene :=
  { x with cluster := x.cluster.setLoop i l }

/-- The scene with a change of a manager. -/
def setManager (x : Scene) (i : Nat) (manager : Manager) : Scene :=
  { x with cluster := x.cluster.modify i fun node => { node with manager } }

/-- Has a run work to do? -/
def Working (x : Scene) (n : Nat) : Prop := x.cluster.shared.isAlive n = true ∧ n ∉ x.reported

/-- What may happen next. -/
inductive Step : Scene → Scene → Prop where
  | start (x : Scene) (i : Nat) : Step x { x with cluster := x.cluster.start i }
  | iterate (x : Scene) (i : Nat) (l : RunnerLoop)
    (loop : Cluster.managerLoop i x.cluster = some l) (looping : l.isLooping = true) :
    Step x
      ((x.setLoop i (l.iterateOnce x.cluster.registry x.cluster.shared).1).share
        (l.iterateOnce x.cluster.registry x.cluster.shared).2)
  /-- A runner is told that a new task is there, or takes note of it. -/
  | notify (x : Scene) (i : Nat) (l : RunnerLoop)
    (loop : Cluster.managerLoop i x.cluster = some l) (notified : Bool) :
    Step x (x.setLoop i { l with runner := { l.runner with notified } })
  | create (x : Scene) (i : Nat) (node : Node) (member : x.cluster.nodes[i]? = some node)
    (taskType : String) (config : Config) :
    Step x
      ((x.setManager i
          (node.manager.create x.cluster.registry taskType config x.cluster.shared).2.1).share
        (node.manager.create x.cluster.registry taskType config x.cluster.shared).2.2)
  | cancel (x : Scene) (i : Nat) (node : Node) (member : x.cluster.nodes[i]? = some node)
    (id : String) : Step x (x.share (node.manager.cancel id x.cluster.shared).2)
  /-- A question about tasks, or a request to stop one. -/
  | ask (x : Scene) (k : Nat) (c : Call) (quiet : c.isQuiet = true) :
    Step x (x.share (x.cluster.shared.call k c).2)
  /-- A job works on, in any way, and whatever the signals are. -/
  | work (x : Scene) (n : Nat) (run : Run) (member : x.cluster.shared.runs[n]? = some run)
    (working : x.Working n) (y : Execution) (task : y.task = run.execution.task)
    (alive : y.isAlive = true) : Step x (x.share (x.cluster.shared.signal n fun _ => y))
  | log (x : Scene) (n : Nat) (run : Run) (member : x.cluster.shared.runs[n]? = some run)
    (line : String) : Step x (x.share (x.cluster.shared.effect run (.log line)))
  /-- The work of a job ends, and the run reports it. -/
  | report (x : Scene) (n : Nat) (run : Run) (member : x.cluster.shared.runs[n]? = some run)
    (working : x.Working n) (e : Ending) :
    Step x
      { x.share (x.cluster.shared.effect run (run.execution.finish e).2) with
        reported := n :: x.reported }
  /-- A run that has reported ends. -/
  | bury (x : Scene) (n : Nat) (reported : n ∈ x.reported) :
    Step x
      { x.share (x.cluster.shared.signal n fun y => { y with phase := .ended }) with
        reported := x.reported.erase n }
  /-- Time passes, but no loop that waits is kept from iterating on time. Timers count whole
  milliseconds, so a pause of no length lasts one, and loops that are hurried need a condition of
  their own: time stands still while one of them waits. -/
  | pass (x : Scene) (millis : Nat)
    (inTime : ∀ (i : Nat) (l : RunnerLoop) (till : Nat), Cluster.managerLoop i x.cluster = some l →
      l.phase = .waiting till → x.cluster.shared.timer + millis ≤ till)
    (unhurried : ∀ (i : Nat) (l : RunnerLoop) (till : Nat),
      Cluster.managerLoop i x.cluster = some l → l.phase = .waiting till →
        l.Hurried x.cluster.roster → millis = 0) :
    Step x (x.share (x.cluster.shared.pass millis))

/-- Any number of steps, one after the other. -/
abbrev Steps : Scene → Scene → Prop := Relation.ReflTransGen Step

end Scene

end TaskCluster
