import Mathlib
import TaskCluster.Proofs.Cluster.Course
import TaskCluster.Proofs.Cluster.Simulation

/-!
# No false failover, and mutual exclusion

From an empty store on, as long as loops keep iterating and calls succeed, no heartbeat gives up the
run of a node that goes on, each running record is tracked by its owner under its claim, and at most
one run works for a task in the whole cluster (`Scene.exclusive_and_never_given_up`). What it takes
is in the settings alone (`WellTimed`): the pause and the heartbeat period of each owner fit into
the timeout of each other node.

The invariant joins the ownership of the view with the timing of the loops (`RunnerLoop.OnTime`): a
waiting loop had no heartbeat due when it iterated last, and its next iteration is not overdue. The
one corner is a loop that has no time at all (`RunnerLoop.Hurried`), next to which none passes.
-/

namespace TaskCluster

/-! ### Timing -/

/-- The nodes have different names, durations are whole milliseconds, and the heartbeats of each
node come often enough for the timeouts of all nodes. -/
structure WellTimed (roster : List (String × RunnerSettings)) : Prop where
  names : (roster.map Prod.fst).Nodup
  whole : ∀ a ∈ roster, nanosPerMilli ∣ a.2.wait.nanos ∧ nanosPerMilli ∣ a.2.heartbeatPeriod.nanos
  margin : ∀ owner ∈ roster, ∀ sweeper ∈ roster, ∃ timeout,
    sweeper.2.failoverTimeout? = some timeout
      ∧ owner.2.wait.nanos + owner.2.heartbeatPeriod.nanos ≤ timeout.nanos

namespace RunnerLoop

variable {l : RunnerLoop} {roster : List (String × RunnerSettings)} {timer : Nat}

/-- The loop is no later than it has to be. -/
inductive OnTime (l : RunnerLoop) (roster : List (String × RunnerSettings)) (timer : Nat) :
    Prop where
  | starting (till : Nat) (phase : l.phase = .starting till)
    (unbeaten : l.runner.lastHeartbeat = none)
  | waiting (since last : Nat) (phase : l.phase = .waiting (since + l.pause))
    (beats : l.runner.Beats since last) (since_le : since ≤ timer)
    (in_time : timer ≤ since + l.pause) (unhurried : l.Hurried roster → timer = since)

theorem OnTime.last_le (h : l.OnTime roster timer) {last : Nat}
    (hlast : l.runner.lastHeartbeat = some last) : last ≤ timer := by
  cases h with
  | starting till hphase hnone =>
    rw [hnone] at hlast
    cases hlast
  | waiting since last' hphase hbeats hsince htime hunhurried =>
    obtain rfl := Option.some.inj (hbeats.last_eq.symm.trans hlast)
    exact hbeats.last_le.trans hsince

/-- A pause of whole milliseconds lasts as many, but one at least. -/
theorem pause_of_whole {w : Nat} (hw : l.runner.settings.wait.nanos = nanosPerMilli * w) :
    l.pause = max 1 w := by
  unfold pause Duration.timerMillis
  rw [hw]
  simp only [nanosPerMilli]
  omega

/-- The last heartbeat of a loop is no further back than the timeout of any node. -/
theorem OnTime.lag_le (h : l.OnTime roster timer)
    (hwait : nanosPerMilli ∣ l.runner.settings.wait.nanos)
    (hperiod : nanosPerMilli ∣ l.runner.settings.heartbeatPeriod.nanos)
    {sweeper : String × RunnerSettings} (hsweeper : sweeper ∈ roster) {timeout : Duration}
    (htimeout : sweeper.2.failoverTimeout? = some timeout)
    (hmargin : l.runner.settings.wait.nanos + l.runner.settings.heartbeatPeriod.nanos
      ≤ timeout.nanos) {last : Nat} (hlast : l.runner.lastHeartbeat = some last) :
    timer - last ≤ timeout.millis := by
  cases h with
  | starting till hphase hnone =>
    rw [hnone] at hlast
    cases hlast
  | waiting since last' hphase hbeats hsince htime hunhurried =>
    obtain rfl := Option.some.inj (hbeats.last_eq.symm.trans hlast)
    have hle := hbeats.last_le
    obtain ⟨w, hw⟩ := hwait
    obtain ⟨p, hp⟩ := hperiod
    have hpause := pause_of_whole hw
    have hroom : w + p ≤ timeout.millis := by
      unfold Duration.millis
      rw [hw, hp] at hmargin
      simp only [nanosPerMilli] at hmargin ⊢
      omega
    -- If the last heartbeat was earlier, less than a period had passed since then.
    have hperiod : last' = since ∨ since - last' < p := by
      refine hbeats.not_due.imp_right fun hlt => ?_
      rw [hp, Nat.mul_comm] at hlt
      exact Nat.lt_of_mul_lt_mul_left hlt
    by_cases hnone : w + p = 0 ∧ timeout.millis = 0
    · have hhurried : l.Hurried roster := by
        refine ⟨?_, sweeper, hsweeper, timeout, htimeout, hnone.2⟩
        rw [hw, hp, ← Nat.mul_add, hnone.1, Nat.mul_zero]
      have hnow := hunhurried hhurried
      omega
    · omega

end RunnerLoop

/-! ### Names -/

/-- Nodes of one name are one node. -/
theorem WellTimed.eq_of_name_eq {c : Cluster} {i j : Nat}
    (h : WellTimed c.roster) {node node' : Node}
    (hi : c.nodes[i]? = some node) (hj : c.nodes[j]? = some node')
    (hname : node.manager.node = node'.manager.node) : i = j := by
  have hat : ∀ {k : Nat} {n : Node}, c.nodes[k]? = some n →
      (c.roster.map Prod.fst)[k]? = some n.manager.node := by
    intro k n hk
    rw [List.getElem?_map, Cluster.roster, List.getElem?_map, hk]
    rfl
  have hlen := (List.getElem?_eq_some_iff.mp (hat hi)).1
  exact (List.getElem?_inj hlen h.names).mp ((hat hi).trans (hname ▸ (hat hj).symm))

/-! ### The invariant -/

/-- The loop of a node runs under its name and settings, and is on time. -/
structure RunnerLoop.Serving (l : RunnerLoop) (node : Node)
    (roster : List (String × RunnerSettings)) (timer : Nat) : Prop where
  name : l.runner.node = node.manager.node
  settings : l.runner.settings = node.manager.settings
  onTime : l.OnTime roster timer

namespace RunnerLoop.Serving

variable {l : RunnerLoop} {node : Node} {roster : List (String × RunnerSettings)} {timer : Nat}

/-- A notification takes nothing from a loop. -/
theorem notify (h : l.Serving node roster timer) (notified : Bool) :
    RunnerLoop.Serving { l with runner := { l.runner with notified } } node roster timer where
  name := h.name
  settings := h.settings
  onTime := by
    cases h.onTime with
    | starting till hphase hnone => exact .starting till hphase hnone
    | waiting since last hphase hbeats hsince htime hunhurried =>
      exact .waiting since last hphase ⟨hbeats.last_eq, hbeats.last_le, hbeats.not_due⟩ hsince
        htime hunhurried

theorem of_timer_eq (h : l.Serving node roster timer) {timer' : Nat} (heq : timer' = timer) :
    l.Serving node roster timer' := heq ▸ h

end RunnerLoop.Serving

namespace Scene

/-- The cluster is sound, and its loops are on time. -/
structure Orderly (x : Scene) : Prop where
  sound : ∃ m, Sound x.cluster.fleet x.cluster.shared x.reported m
  timed : WellTimed x.cluster.roster
  serving : ∀ (i : Nat) (node : Node) (l : RunnerLoop), x.cluster.nodes[i]? = some node →
    node.manager.loop = some l → l.Serving node x.cluster.roster x.cluster.shared.timer

/-- Nothing has happened yet: the store is empty, no run was started and no node is. -/
structure Fresh (x : Scene) : Prop where
  empty : x.cluster.shared.store.Holds {}
  healthy : ∀ k, (x.cluster.shared.connection k).Healthy
  unique : x.cluster.shared.UniqueIds
  unstarted : ∀ i, Cluster.managerLoop i x.cluster = none
  runs : x.cluster.shared.runs = []
  reported : x.reported = []

variable {x : Scene}

theorem Fresh.orderly (h : x.Fresh) (htimed : WellTimed x.cluster.roster) : x.Orderly where
  sound := by
    refine ⟨{}, ⟨h.empty, h.healthy, h.unique, fun _ _ => rfl⟩, ?_, ?_⟩
    · rw [h.reported]
      exact nofun
    · have hfleet : x.cluster.fleet = fun _ => none := by
        funext i
        rw [Cluster.fleet, h.unstarted i]
        rfl
      have hworker : x.cluster.shared.worker? x.reported = fun _ => none := by
        funext n
        unfold Shared.worker?
        rw [h.runs]
        split <;> rfl
      unfold Shared.view
      rw [hfleet, hworker]
      exact View.owned_empty _ _
  timed := htimed
  serving := by
    intro i node l hi hl
    have hnone := h.unstarted i
    rw [Cluster.managerLoop_eq_some_iff.mpr ⟨node, hi, hl⟩] at hnone
    cases hnone

namespace Orderly

/-- The last heartbeats of all nodes are in the timeout of each. -/
theorem lag_le (h : x.Orderly) {sweeper : Node} (hsweeper : sweeper ∈ x.cluster.nodes)
    {timeout : Duration} (htimeout : sweeper.manager.settings.failoverTimeout? = some timeout)
    (j : Nat) (r : Runner) (hj : x.cluster.fleet j = some r) (last : Nat)
    (hlast : r.lastHeartbeat = some last) :
    x.cluster.shared.timer - last ≤ timeout.millis := by
  obtain ⟨l, hl, rfl⟩ := Cluster.fleet_eq_some_iff.mp hj
  obtain ⟨owner, howner, hloop⟩ := Cluster.managerLoop_eq_some_iff.mp hl
  have hserving := h.serving j owner l howner hloop
  have hmem := Cluster.mem_roster (List.mem_of_getElem? howner)
  obtain ⟨hwait, hperiod⟩ := h.timed.whole _ hmem
  obtain ⟨timeout', htimeout', hmargin⟩ :=
    h.timed.margin _ hmem _ (Cluster.mem_roster hsweeper)
  obtain rfl := Option.some.inj (htimeout.symm.trans htimeout')
  dsimp only at hwait hperiod hmargin
  rw [← hserving.settings] at hwait hperiod hmargin
  exact hserving.onTime.lag_le hwait hperiod (Cluster.mem_roster hsweeper) htimeout hmargin hlast

/-- A node has a timeout. -/
theorem exists_timeout (h : x.Orderly) {node : Node} (hnode : node ∈ x.cluster.nodes) :
    ∃ timeout, node.manager.settings.failoverTimeout? = some timeout := by
  obtain ⟨timeout, htimeout, -⟩ :=
    h.timed.margin _ (Cluster.mem_roster hnode) _ (Cluster.mem_roster hnode)
  exact ⟨timeout, htimeout⟩

/-- A change of what is shared keeps order if it is sound and takes no time. -/
theorem share (h : x.Orderly) {s : Shared} {m : Memory}
    (hsound : Sound x.cluster.fleet s x.reported m)
    (htimer : s.timer = x.cluster.shared.timer) : (x.share s).Orderly where
  sound := ⟨m, hsound⟩
  timed := h.timed
  serving := by
    intro i node l hi hl
    exact (h.serving i node l hi hl).of_timer_eq htimer

/-- A change of a loop keeps order if it is sound and on time. -/
theorem setLoop (h : x.Orderly) {i : Nat} {node : Node} (hi : x.cluster.nodes[i]? = some node)
    {l : RunnerLoop} {s : Shared} {m : Memory}
    (hsound : Sound (Function.update x.cluster.fleet i (some l.runner)) s x.reported m)
    (hserving : l.Serving node x.cluster.roster s.timer)
    (htimer : s.timer = x.cluster.shared.timer) : ((x.setLoop i l).share s).Orderly where
  sound := by
    refine ⟨m, ?_⟩
    have hfleet := Cluster.fleet_setLoop hi l
    rw [← hfleet] at hsound
    exact hsound
  timed := by
    show WellTimed (x.cluster.setLoop i l).roster
    rw [Cluster.roster_setLoop]
    exact h.timed
  serving := by
    intro j node' l' hj hl'
    show l'.Serving node' (x.cluster.setLoop i l).roster s.timer
    rw [Cluster.roster_setLoop]
    have hmodified : (x.cluster.setLoop i l).nodes[j]? = some node' := hj
    rw [Cluster.setLoop, Cluster.getElem?_modify] at hmodified
    split at hmodified
    case isTrue hij =>
      subst hij
      rw [hi] at hmodified
      obtain rfl := Option.some.inj hmodified
      obtain rfl := Option.some.inj hl'
      exact ⟨hserving.name, hserving.settings, hserving.onTime⟩
    case isFalse => exact (h.serving j node' l' hmodified hl').of_timer_eq htimer

/-- A node that is started has an idle runner under its name. -/
theorem start (h : x.Orderly) (i : Nat) :
    Orderly { x with cluster := x.cluster.start i } := by
  obtain ⟨m, hsound⟩ := h.sound
  by_cases hstarted : ∃ node, x.cluster.nodes[i]? = some node ∧ node.manager.loop = none
  · obtain ⟨node, hi, hnone⟩ := hstarted
    let l : RunnerLoop := RunnerLoop.start
      ⟨{ node := node.manager.node, settings := node.manager.settings,
         connection := node.manager.connection }, .idle, false⟩ x.cluster.shared
    have hcluster : x.cluster.start i = x.cluster.setLoop i l := by
      refine Cluster.modify_congr fun node' hi' => ?_
      obtain rfl := Option.some.inj (hi.symm.trans hi')
      unfold Manager.start
      rw [hnone]
    have hfleet : x.cluster.fleet i = none := by
      unfold Cluster.fleet Cluster.managerLoop
      rw [hi, Option.bind_some, hnone]
      rfl
    -- The names are distinct, so no other runner has this one.
    have hother : ∀ j r, x.cluster.fleet j = some r → r.node ≠ l.runner.node := by
      intro j r hj hname
      obtain ⟨l', hl', rfl⟩ := Cluster.fleet_eq_some_iff.mp hj
      obtain ⟨node', hj', hloop'⟩ := Cluster.managerLoop_eq_some_iff.mp hl'
      have hname' : node'.manager.node = node.manager.node :=
        (h.serving j node' l' hj' hloop').name.symm.trans hname
      obtain rfl := h.timed.eq_of_name_eq hj' hi hname'
      rw [hfleet] at hj
      cases hj
    have hstart := hsound.enlist hfleet rfl hother
    have horderly := h.setLoop hi hstart ⟨rfl, rfl, .starting _ rfl rfl⟩ rfl
    rw [hcluster]
    exact horderly
  · have hcluster : x.cluster.start i = x.cluster := by
      refine Cluster.modify_eq_self fun node hi => ?_
      cases hloop : node.manager.loop with
      | none => exact absurd ⟨node, hi, hloop⟩ hstarted
      | some l =>
        unfold Manager.start
        rw [hloop]
    rw [hcluster]
    exact h

/-- A loop iterates. -/
theorem iterate (h : x.Orderly) {i : Nat} {l : RunnerLoop}
    (hl : Cluster.managerLoop i x.cluster = some l) :
    ((x.setLoop i (l.iterateOnce x.cluster.registry x.cluster.shared).1).share
      (l.iterateOnce x.cluster.registry x.cluster.shared).2).Orderly := by
  obtain ⟨m, hsound⟩ := h.sound
  obtain ⟨node, hi, hloop⟩ := Cluster.managerLoop_eq_some_iff.mp hl
  obtain ⟨hname, hsettings, htime⟩ := h.serving i node l hi hloop
  obtain ⟨timeout, htimeout⟩ := h.exists_timeout (List.mem_of_getElem? hi)
  have hfleet : x.cluster.fleet i = some l.runner := Cluster.fleet_eq_some_iff.mpr ⟨l, hl, rfl⟩
  obtain ⟨r', s', m', last, hrun, hsound', hname', hsettings', hbeats, htimer⟩ :=
    hsound.runOnce x.cluster.registry hfleet (hsettings ▸ htimeout)
      (fun j r' _ => h.lag_le (List.mem_of_getElem? hi) htimeout j r')
      fun last hlast => htime.last_le hlast
  let l' : RunnerLoop := { l with runner := r', phase := .waiting (s'.timer + l.pause) }
  have hiterate : l.iterateOnce x.cluster.registry x.cluster.shared = (l', s') := by
    unfold RunnerLoop.iterateOnce
    rw [hrun]
    rfl
  have hpause : l'.pause = l.pause := by
    unfold RunnerLoop.pause
    rw [show l'.runner.settings = l.runner.settings from hsettings']
  rw [hiterate]
  refine h.setLoop hi hsound' ⟨hname'.trans hname, hsettings'.trans hsettings, ?_⟩ htimer
  refine .waiting s'.timer last ?_ (htimer ▸ hbeats) (Nat.le_refl _) (Nat.le_add_right _ _)
    fun _ => rfl
  rw [hpause]

/-- A manager that is set to what it is makes no difference. -/
theorem setManager_eq_self {i : Nat} {node : Node} (hi : x.cluster.nodes[i]? = some node) :
    x.setManager i node.manager = x := by
  have hcluster : (x.cluster.modify i fun n => { n with manager := node.manager }) = x.cluster := by
    refine Cluster.modify_eq_self fun node' hi' => ?_
    obtain rfl := Option.some.inj (hi.symm.trans hi')
    rfl
  unfold setManager
  rw [hcluster]

/-- A manager creates a task, and tells its runner. -/
theorem create (h : x.Orderly) {i : Nat} {node : Node} (hi : x.cluster.nodes[i]? = some node)
    (taskType : String) (config : Config) :
    ((x.setManager i
        (node.manager.create x.cluster.registry taskType config x.cluster.shared).2.1).share
      (node.manager.create x.cluster.registry taskType config x.cluster.shared).2.2).Orderly := by
  obtain ⟨m, hsound⟩ := h.sound
  unfold Manager.create
  cases hwork : x.cluster.registry.create taskType config with
  | error f =>
    dsimp only
    rw [setManager_eq_self hi]
    exact h
  | ok work =>
    obtain ⟨s', m', heq, hsound', htimer⟩ :=
      hsound.create node.manager.connection taskType config
    dsimp only
    rw [heq]
    dsimp only
    -- A manager that is not started has no runner to tell.
    cases hloop : node.manager.loop with
    | none =>
      have hmanager : { node.manager with loop := none } = node.manager := by rw [← hloop]
      rw [Option.map_none, hmanager, setManager_eq_self hi]
      exact h.share hsound' htimer
    | some l =>
      have hfleet : x.cluster.fleet i = some l.runner :=
        Cluster.fleet_eq_some_iff.mpr
          ⟨l, Cluster.managerLoop_eq_some_iff.mpr ⟨node, hi, hloop⟩, rfl⟩
      have hset : x.setManager i { node.manager with loop := some l.notify }
          = x.setLoop i l.notify := by
        have hcluster : (x.cluster.modify i fun n =>
            { n with manager := { node.manager with loop := some l.notify } })
              = x.cluster.setLoop i l.notify := by
          refine Cluster.modify_congr fun node' hi' => ?_
          obtain rfl := Option.some.inj (hi.symm.trans hi')
          rfl
        unfold setManager Scene.setLoop
        rw [hcluster]
      rw [Option.map_some, hset]
      exact h.setLoop hi (hsound'.notify hfleet true)
        ((h.serving i node l hi hloop).notify true |>.of_timer_eq htimer) htimer

/-- Time that no loop misses its next iteration for. -/
theorem pass (h : x.Orderly) {millis : Nat}
    (htime : ∀ i l till, Cluster.managerLoop i x.cluster = some l → l.phase = .waiting till →
      x.cluster.shared.timer + millis ≤ till)
    (hunhurried : ∀ i l till, Cluster.managerLoop i x.cluster = some l →
      l.phase = .waiting till → l.Hurried x.cluster.roster → millis = 0) :
    (x.share (x.cluster.shared.pass millis)).Orderly where
  sound := by
    obtain ⟨m, hsound⟩ := h.sound
    exact ⟨m, hsound.pass millis⟩
  timed := h.timed
  serving := by
    intro i node l hi hloop
    obtain ⟨hname, hsettings, honTime⟩ := h.serving i node l hi hloop
    refine ⟨hname, hsettings, ?_⟩
    cases honTime with
    | starting till hphase hnone => exact .starting till hphase hnone
    | waiting since last hphase hbeats hsince _ hstill =>
      have hl : Cluster.managerLoop i x.cluster = some l :=
        Cluster.managerLoop_eq_some_iff.mpr ⟨node, hi, hloop⟩
      refine .waiting since last hphase hbeats (hsince.trans (Nat.le_add_right _ _))
        (htime i l _ hl hphase) fun hhurried => ?_
      have hnone := hunhurried i l _ hl hphase hhurried
      rw [hnone]
      exact hstill hhurried

/-- **Every step keeps order.** -/
theorem step (h : x.Orderly) {y : Scene} (hstep : Step x y) : y.Orderly := by
  obtain ⟨m, hsound⟩ := h.sound
  cases hstep with
  | start i => exact h.start i
  | iterate i l hl hlooping => exact h.iterate hl
  | notify i l hl notified =>
    obtain ⟨node, hi, hloop⟩ := Cluster.managerLoop_eq_some_iff.mp hl
    have hfleet := Cluster.fleet_eq_some_iff.mpr ⟨l, hl, rfl⟩
    exact h.setLoop hi (hsound.notify hfleet notified)
      ((h.serving i node l hi hloop).notify notified) rfl
  | create i node hi taskType config => exact h.create hi taskType config
  | cancel i node hi id =>
    obtain ⟨m', hsound', htimer⟩ := hsound.cancel node.manager id
    exact h.share hsound' htimer
  | ask k c hquiet =>
    obtain ⟨store, heq, hsound'⟩ := hsound.call k hquiet
    rw [heq]
    exact h.share hsound' rfl
  | work n run hrun hworking e htask halive =>
    have hrunning := (Shared.isAlive_eq hrun).symm.trans hworking.1
    exact h.share (hsound.work hrun hrunning htask halive) rfl
  | log n run hrun line =>
    obtain ⟨store, m', heq, hsound'⟩ := hsound.log run line
    rw [heq]
    exact h.share hsound' rfl
  | report n run hrun hworking e =>
    have hrunning := (Shared.isAlive_eq hrun).symm.trans hworking.1
    obtain ⟨store, m', heq, hsound'⟩ := hsound.report hrun hrunning hworking.2 e
    rw [heq]
    exact ⟨⟨m', hsound'⟩, h.timed, h.serving⟩
  | bury n hn => exact ⟨⟨m, hsound.bury hn⟩, h.timed, h.serving⟩
  | pass millis htime hunhurried => exact h.pass htime hunhurried

theorem steps (h : x.Orderly) {y : Scene} (hsteps : Steps x y) :
    y.Orderly := by
  induction hsteps with
  | refl => exact h
  | tail _ hstep ih => exact ih.step hstep

end Orderly

/-! ### The theorem -/

/-- Does the next heartbeat of a loop, if one is due in its iteration, leave the status of every
record as it is? -/
def SweepsHarmlessly (s : Shared) (l : RunnerLoop) : Prop :=
  ∀ id, ((l.runner.heartbeatIfDue (l.runner.relayCancels s).2).2.2.store.record? id).map
    Record.status = (s.store.record? id).map Record.status

/-- A running record is tracked by the runner of its node, which has the run under its claim. -/
def Tracked (x : Scene) (record : Record) : Prop :=
  ∃ (i : Nat) (l : RunnerLoop) (n : Nat) (run : Run),
    Cluster.managerLoop i x.cluster = some l ∧ record.node = some l.runner.node
      ∧ l.runner.find? record.id = some n ∧ x.cluster.shared.runs[n]? = some run ∧ x.Working n
      ∧ run.execution.task = record.id ∧ record.claim? = some run.claim

/-- **No false failover, and mutual exclusion in the whole cluster.** Whatever happens from an empty
store on, no heartbeat that a loop makes changes the status of a record, each running record is
tracked by its owner under its current claim, and two runs that have work to do are of different
tasks. -/
theorem exclusive_and_never_given_up {x₀ x : Scene} (hfresh : x₀.Fresh)
    (htimed : WellTimed x₀.cluster.roster) (hsteps : Steps x₀ x) :
    (∀ i l, Cluster.managerLoop i x.cluster = some l → SweepsHarmlessly x.cluster.shared l)
      ∧ (∀ id record, x.cluster.shared.store.record? id = some record →
          record.status = .running → x.Tracked record)
      ∧ ∀ (n n' : Nat) (run run' : Run), x.cluster.shared.runs[n]? = some run →
          x.cluster.shared.runs[n']? = some run' → x.Working n → x.Working n' →
          run.execution.task = run'.execution.task → n = n' := by
  have h := (hfresh.orderly htimed).steps hsteps
  obtain ⟨m, hsound⟩ := h.sound
  refine ⟨?_, ?_, ?_⟩
  · intro i l hl id
    obtain ⟨node, hi, hloop⟩ := Cluster.managerLoop_eq_some_iff.mp hl
    have hserving := h.serving i node l hi hloop
    obtain ⟨timeout, htimeout⟩ := h.exists_timeout (List.mem_of_getElem? hi)
    have hfleet := Cluster.fleet_eq_some_iff.mpr ⟨l, hl, rfl⟩
    -- An iteration relays requests first, which takes no time and changes no record.
    obtain ⟨s₁, hrelay, hsound₁, htimer₁⟩ := hsound.relayCancels l.runner
    obtain ⟨store, m', lastHeartbeat, last, hbeat, hsound₂, -, hstatus⟩ :=
      hsound₁.heartbeatIfDue hfleet (hserving.settings ▸ htimeout)
        (fun j r' _ hj last hlast => by
          rw [htimer₁]
          exact h.lag_le (List.mem_of_getElem? hi) htimeout j r' hj last hlast)
        (fun last hlast => by
          rw [htimer₁]
          exact hserving.onTime.last_le hlast)
    rw [hrelay, hbeat, hsound₂.serves.record?_eq, hsound.serves.record?_eq]
    exact hstatus id
  · intro id record hrecord hrunning
    rw [hsound.serves.record?_eq] at hrecord
    obtain rfl := Memory.id_of_get? hrecord
    have hlease := Record.lease?_of_running hrunning
    have hheld : m.lease? record.id = some _ :=
      Memory.lease?_eq_some_iff.mpr ⟨record, hrecord, hlease⟩
    -- A lease is that of a working run, and the node of a working run tracks it.
    obtain ⟨n, c, hn, hc⟩ := hsound.owned.busy record.id _ hheld
    obtain ⟨i, r, _, hi, hnode, hmem, -, -⟩ := hsound.owned.holder n record.id c hn
    obtain ⟨hnot, run, hrun, halive, htask, rfl⟩ := Shared.worker?_eq_some_iff.mp hn
    obtain ⟨l, hl, rfl⟩ := Cluster.fleet_eq_some_iff.mp hi
    refine ⟨i, l, n, run, hl, hc.1.trans (congrArg some hnode.symm), ?_, hrun,
      ⟨(Shared.isAlive_eq hrun).trans halive, hnot⟩, htask, Record.claim?_of_lease? hlease hc⟩
    exact (Runner.find?_eq_some_iff (hsound.owned.ids_nodup i _ hi)).mpr hmem
  · intro n n' run run' hrun hrun' hn hn' htask
    have hworker : ∀ {k : Nat} {r : Run}, x.cluster.shared.runs[k]? = some r → x.Working k →
        x.cluster.shared.worker? x.reported k = some (r.execution.task, r.claim) :=
      fun hk hworking => Shared.worker?_eq_some_iff.mpr
        ⟨hworking.2, _, hk, (Shared.isAlive_eq hk).symm.trans hworking.1, rfl, rfl⟩
    have hw' := hworker hrun' hn'
    rw [← htask] at hw'
    exact hsound.owned.eq_of_task_eq (hworker hrun hn) hw'

section TwoNodes

/-- Loops that pause for ten milliseconds, beat after twenty and give up runs after forty. -/
def brisk : RunnerSettings :=
  { wait := .ofMillis 10
    heartbeatPeriod := .ofMillis 20
    failoverTimeoutFactor := 2 }

/-- Two nodes on an empty store, with jobs that sleep for a second, whatever happens. -/
def twoNodes : Scene :=
  let shared : Shared := { store := .memory {}, clock := .epoch }
  let registry : Registry :=
    .register {} "job" fun _ => .ok (.script [.hardSleep (.ofSeconds 1), .finish .completed])
  { cluster := (Cluster.join { registry, shared } "a" brisk {} false).join "b" brisk {} false }

/-- The scene after a node has created a task. -/
def created (x : Scene) (i : Nat) : Scene :=
  match x.cluster.nodes[i]? with
  | none => x
  | some node =>
    (x.setManager i
        (node.manager.create x.cluster.registry "job" none x.cluster.shared).2.1).share
      (node.manager.create x.cluster.registry "job" none x.cluster.shared).2.2

/-- The scene after the loop of a node has iterated. -/
def iterated (x : Scene) (i : Nat) : Scene :=
  match Cluster.managerLoop i x.cluster with
  | none => x
  | some l =>
    (x.setLoop i (l.iterateOnce x.cluster.registry x.cluster.shared).1).share
      (l.iterateOnce x.cluster.registry x.cluster.shared).2

/-- The scene after both loops have iterated. -/
def round (x : Scene) : Scene := (x.iterated 0).iterated 1

/-- The scene after a step of a job. -/
def worked (x : Scene) (n : Nat) : Scene := x.share (x.cluster.shared.stepRun n)

/-- The scene some milliseconds later. -/
def passed (x : Scene) (millis : Nat) : Scene := x.share (x.cluster.shared.pass millis)

/-- Does no loop have to iterate in less time, and do all of them pause? -/
def hasTime (x : Scene) (millis : Nat) : Bool :=
  x.cluster.nodes.all fun node => node.manager.loop.all fun l =>
    match l.phase with
    | .waiting till =>
      x.cluster.shared.timer + millis ≤ till && l.runner.settings.wait.nanos ≠ 0
    | _ => true

theorem step_created {x : Scene} {i : Nat} (h : (x.cluster.nodes[i]?).isSome = true) :
    Step x (x.created i) := by
  obtain ⟨node, hnode⟩ := Option.isSome_iff_exists.mp h
  unfold created
  rw [hnode]
  exact .create x i node hnode "job" none

theorem step_iterated {x : Scene} {i : Nat}
    (h : (Cluster.managerLoop i x.cluster).any RunnerLoop.isLooping = true) :
    Step x (x.iterated i) := by
  unfold iterated
  cases hl : Cluster.managerLoop i x.cluster with
  | none =>
    rw [hl] at h
    cases h
  | some l =>
    rw [hl] at h
    exact .iterate x i l hl h

theorem steps_round {x : Scene}
    (h₀ : (Cluster.managerLoop 0 x.cluster).any RunnerLoop.isLooping = true)
    (h₁ : (Cluster.managerLoop 1 (x.iterated 0).cluster).any RunnerLoop.isLooping = true) :
    Steps x x.round := (Relation.ReflTransGen.single (step_iterated h₀)).tail (step_iterated h₁)

theorem step_passed {x : Scene} {millis : Nat} (h : x.hasTime millis = true) :
    Step x (x.passed millis) := by
  have hloop : ∀ i l till, Cluster.managerLoop i x.cluster = some l → l.phase = .waiting till →
      x.cluster.shared.timer + millis ≤ till ∧ l.runner.settings.wait.nanos ≠ 0 := by
    intro i l till hl hphase
    obtain ⟨node, hi, hmanager⟩ := Cluster.managerLoop_eq_some_iff.mp hl
    have hnode := List.all_eq_true.mp h node (List.mem_of_getElem? hi)
    rw [hmanager, Option.all_some, hphase] at hnode
    simpa using hnode
  refine .pass x millis (fun i l till hl hphase => (hloop i l till hl hphase).1) ?_
  intro i l till hl hphase hhurried
  exact absurd (Nat.eq_zero_of_add_eq_zero_right hhurried.1) (hloop i l till hl hphase).2

/-- Both nodes are started. -/
def twoNodesStarted : Scene := { twoNodes with cluster := (twoNodes.cluster.start 0).start 1 }

/-- The first has created a task, and both have iterated. -/
def twoNodesBusy : Scene := (twoNodesStarted.created 0).round

/-- The job sleeps, and both loops have iterated after a pause. -/
def twoNodesAsleep : Scene := ((twoNodesBusy.worked 0).passed 10).round

/-- After another pause the heartbeats of both nodes are due. The second has made its own first. -/
def twoNodesBeating : Scene := (twoNodesAsleep.passed 10).iterated 1

theorem twoNodes_fresh : twoNodes.Fresh where
  empty := Store.Holds.memory fun r hr => nomatch hr
  healthy := by
    intro k
    rcases k with _ | _ | k
    · exact ⟨rfl, rfl⟩
    · exact ⟨rfl, rfl⟩
    · exact ⟨rfl, rfl⟩
  unique := taskId_injective
  unstarted := by
    intro i
    rcases i with _ | _ | i
    · rfl
    · rfl
    · rfl
  runs := rfl
  reported := rfl

theorem twoNodes_timed : WellTimed twoNodes.cluster.roster where
  names := by decide +kernel
  whole := by decide +kernel
  margin := by
    have hsettings : ∀ a ∈ twoNodes.cluster.roster, a.2 = brisk := by decide +kernel
    intro owner howner sweeper hsweeper
    rw [hsettings owner howner, hsettings sweeper hsweeper]
    exact ⟨.ofMillis 40, by decide +kernel, by decide +kernel⟩

theorem twoNodes_steps : Steps twoNodes twoNodesBeating := by
  have hfirst := Step.start twoNodes 0
  have hsecond := Step.start { twoNodes with cluster := twoNodes.cluster.start 0 } 1
  have hcreate : Step twoNodesStarted (twoNodesStarted.created 0) :=
    step_created (by decide +kernel)
  have hbusy : Steps (twoNodesStarted.created 0) twoNodesBusy :=
    steps_round (by decide +kernel) (by decide +kernel)
  have hjob : Steps twoNodesBusy (twoNodesBusy.worked 0) := steps_run (by decide +kernel)
  have hpause : Step (twoNodesBusy.worked 0) ((twoNodesBusy.worked 0).passed 10) :=
    step_passed (by decide +kernel)
  have hasleep : Steps ((twoNodesBusy.worked 0).passed 10) twoNodesAsleep :=
    steps_round (by decide +kernel) (by decide +kernel)
  have hpause' : Step twoNodesAsleep (twoNodesAsleep.passed 10) := step_passed (by decide +kernel)
  have hbeat : Step (twoNodesAsleep.passed 10) twoNodesBeating :=
    step_iterated (by decide +kernel)
  have hstarted := ((Relation.ReflTransGen.single hfirst).tail hsecond).tail hcreate
  exact (((((hstarted.trans hbusy).trans hjob).tail hpause).trans hasleep).tail hpause').tail hbeat

/-- The first of two nodes runs a job. Twenty milliseconds later both heartbeats are due, and the
second node makes its own while that of the first is still to come. It does not give up the run. -/
theorem exclusive_and_never_given_up_for_two_nodes :
    twoNodes.Fresh ∧ WellTimed twoNodes.cluster.roster
      ∧ Steps twoNodes twoNodesBeating
      ∧ (twoNodesBeating.cluster.shared.timer = 20
        ∧ twoNodesBeating.cluster.nodes.map (fun node =>
            node.manager.loop.map fun l => l.runner.lastHeartbeat) = [some (some 0), some (some 20)]
        ∧ twoNodesBeating.cluster.shared.isAlive 0 = true)
      ∧ (∀ i l, Cluster.managerLoop i twoNodesBeating.cluster = some l →
          SweepsHarmlessly twoNodesBeating.cluster.shared l)
      ∧ (∃ record, twoNodesBeating.cluster.shared.store.record? (taskId 1) = some record
          ∧ record.status = .running ∧ twoNodesBeating.Tracked record)
      ∧ ∀ (n n' : Nat) (run run' : Run), twoNodesBeating.cluster.shared.runs[n]? = some run →
          twoNodesBeating.cluster.shared.runs[n']? = some run' → twoNodesBeating.Working n →
          twoNodesBeating.Working n' → run.execution.task = run'.execution.task → n = n' := by
  obtain ⟨hsweeps, htracked, hexclusive⟩ :=
    exclusive_and_never_given_up twoNodes_fresh twoNodes_timed twoNodes_steps
  have hrunning : (twoNodesBeating.cluster.shared.store.record? (taskId 1)).map Record.status
      = some .running := by decide +kernel
  obtain ⟨record, hrecord, hstatus⟩ := Option.map_eq_some_iff.mp hrunning
  exact ⟨twoNodes_fresh, twoNodes_timed, twoNodes_steps, by decide +kernel, hsweeps,
    ⟨record, hrecord, hstatus, htracked _ record hrecord hstatus⟩, hexclusive⟩

end TwoNodes

end Scene

end TaskCluster
