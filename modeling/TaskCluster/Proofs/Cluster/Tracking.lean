import Mathlib
import TaskCluster.Proofs.Cluster.RunnerEffect

/-!
# Which runs a runner keeps track of

A runner tracks runs under the ids of their tasks, so it can track one run of a task only: the last
one that it started. A run that is still alive when its task is started again on the same node drops
out of sight. It is neither counted nor interrupted from then on (`untracked_run_reachable`).

That is all that can go wrong. A run that is alive is tracked exactly as long as its task has not
been started again (`tracked_iff_not_restarted`), and where no live run is restarted the capacity
holds, no two live runs are of one task, and an interrupt reaches every one of them.
-/

namespace TaskCluster

/-- A later run is of the same task. -/
def Shared.Restarted (s : Shared) (n : Nat) : Prop :=
  ∃ (run : Run) (m : Nat) (later : Run), s.runs[n]? = some run ∧ n < m
    ∧ s.runs[m]? = some later ∧ later.execution.task = run.execution.task

namespace Runner

/-! ### What a runner does, and what happens around it -/

/-- What may happen next to a runner and to what it shares. -/
inductive Step (registry : Registry) : Runner × Shared → Runner × Shared → Prop where
  | runOnce (r : Runner) (s : Shared) : Step registry (r, s) (r.runOnce registry s).2
  | startTasks (r : Runner) (s : Shared) : Step registry (r, s) (r.startTasks registry s).2
  | relayCancels (r : Runner) (s : Shared) : Step registry (r, s) (r, (r.relayCancels s).2)
  | heartbeat (r : Runner) (s : Shared) : Step registry (r, s) (r.heartbeat s).2
  | forgetEnded (r : Runner) (s : Shared) : Step registry (r, s) (r.forgetEnded s, s)
  | cancelTask (r : Runner) (s : Shared) (id : String) :
    Step registry (r, s) (r, r.cancelTask id s)
  /-- Others use the store, time passes, and the runs go on or end. -/
  | around (r : Runner) {s s' : Shared} (h : s.Drifts s') : Step registry (r, s) (r, s')

/-- The runner and its surroundings after any number of steps from the start of the runner. -/
def Reaches (registry : Registry) (settings : RunnerSettings) (r : Runner) (s : Shared) : Prop :=
  ∃ r₀ s₀, r₀.tracked = [] ∧ r₀.settings = settings ∧ s₀.runs = []
    ∧ Relation.ReflTransGen (Step registry) (r₀, s₀) (r, s)

theorem Step.acts {registry : Registry} {p p' : Runner × Shared} (h : Step registry p p') :
    Acts p p' := by
  cases h with
  | runOnce r s => exact acts_runOnce registry r s
  | startTasks r s => exact acts_startTasks registry r s
  | relayCancels r s => exact .of_drifts r (drifts_relayCancels r s)
  | heartbeat r s => exact acts_heartbeat r s
  | forgetEnded r s => exact .single (.forget r s)
  | cancelTask r s id => exact .of_drifts r (drifts_cancelTask r id s)
  | around r h => exact .of_drifts r h

/-! ### The invariant -/

/-- The runner tracks the last run of each of some tasks, those of the live ones among them, and
never more than it has room for. -/
structure TracksLast (r : Runner) (s : Shared) : Prop where
  ids_nodup : r.ids.Nodup
  run : ∀ (id : String) (n : Nat), (id, n) ∈ r.tracked →
    ∃ run : Run, s.runs[n]? = some run ∧ run.execution.task = id
  last : ∀ (id : String) (n : Nat), (id, n) ∈ r.tracked → ¬ s.Restarted n
  alive : ∀ (n : Nat) (run : Run), s.runs[n]? = some run → run.execution.isAlive = true →
    ¬ s.Restarted n → (run.execution.task, n) ∈ r.tracked
  room : r.tracked.length ≤ r.settings.maxRunning

theorem tracksLast_start {r : Runner} {s : Shared} (hr : r.tracked = []) (hs : s.runs = []) :
    TracksLast r s where
  ids_nodup := by
    rw [ids, hr]
    exact List.nodup_nil
  run := by
    intro id n h
    rw [hr] at h
    cases h
  last := by
    intro id n h
    rw [hr] at h
    cases h
  alive := by
    intro n run h
    rw [hs] at h
    cases h
  room := by
    rw [hr]
    exact Nat.zero_le _

/-! ### The invariant is kept -/

theorem restarted_iff_of_drifts {s s' : Shared} (h : s.Drifts s') (n : Nat) :
    s'.Restarted n ↔ s.Restarted n := by
  constructor
  · rintro ⟨run', m, later', hrun', hnm, hlater', htask⟩
    obtain ⟨run, hrun, -, hcont⟩ := h.run n run' hrun'
    obtain ⟨later, hlater, -, hcont'⟩ := h.run m later' hlater'
    refine ⟨run, m, later, hrun, hnm, hlater, ?_⟩
    rw [← hcont.task, ← hcont'.task, htask]
  · rintro ⟨run, m, later, hrun, hnm, hlater, htask⟩
    obtain ⟨run', hrun', -, hcont⟩ := h.exists_run hrun
    obtain ⟨later', hlater', -, hcont'⟩ := h.exists_run hlater
    refine ⟨run', m, later', hrun', hnm, hlater', ?_⟩
    rw [hcont.task, hcont'.task, htask]

theorem TracksLast.drift {r r' : Runner} {s s' : Shared} (h : TracksLast r s) (hs : s.Drifts s')
    (htracked : r'.tracked = r.tracked) (hsettings : r'.settings = r.settings) :
    TracksLast r' s' where
  ids_nodup := by
    rw [ids, htracked]
    exact h.ids_nodup
  run := by
    intro id n hmem
    rw [htracked] at hmem
    obtain ⟨run, hrun, htask⟩ := h.run id n hmem
    obtain ⟨run', hrun', -, hcont⟩ := hs.exists_run hrun
    exact ⟨run', hrun', hcont.task.trans htask⟩
  last := by
    intro id n hmem
    rw [htracked] at hmem
    rw [restarted_iff_of_drifts hs]
    exact h.last id n hmem
  alive := by
    intro n run' hrun' halive hlast
    obtain ⟨run, hrun, -, hcont⟩ := hs.run n run' hrun'
    rw [restarted_iff_of_drifts hs] at hlast
    rw [htracked, hcont.task]
    exact h.alive n run hrun (hcont.alive halive) hlast
  room := by
    rw [htracked, hsettings]
    exact h.room

theorem TracksLast.forget {r : Runner} {s : Shared} (h : TracksLast r s) :
    TracksLast (r.forgetEnded s) s where
  ids_nodup := h.ids_nodup.sublist (List.filter_sublist.map Prod.fst)
  run := fun id n hmem => h.run id n (List.mem_of_mem_filter hmem)
  last := fun id n hmem => h.last id n (List.mem_of_mem_filter hmem)
  alive := by
    intro n run hrun halive hlast
    refine List.mem_filter.mpr ⟨h.alive n run hrun halive hlast, ?_⟩
    rw [Shared.isAlive_eq hrun]
    exact halive
  room := (List.length_filter_le _ _).trans h.room

/-- The number of the next run is beyond all others. -/
theorem lt_of_getElem? {s : Shared} {n : Nat} {run : Run} (h : s.runs[n]? = some run) :
    n < s.runs.length := (List.getElem?_eq_some_iff.mp h).1

/-- A new run restarts the other runs of its task, and nothing restarts the new run. -/
theorem restarted_spawn_iff {s : Shared} {new : Run} {n : Nat} :
    (s.spawn new).2.Restarted n
      ↔ s.Restarted n ∨ ∃ run, s.runs[n]? = some run ∧ run.execution.task = new.execution.task := by
  dsimp only [Shared.spawn, Shared.Restarted]
  constructor
  · rintro ⟨run, m, later, hrun, hnm, hlater, htask⟩
    have hm := (List.getElem?_eq_some_iff.mp hlater).1
    rw [List.length_append, List.length_singleton] at hm
    have hn : n < s.runs.length := by omega
    rw [List.getElem?_append_left hn] at hrun
    -- Either an old run was the restart, or the new one is.
    by_cases hlast : m < s.runs.length
    · rw [List.getElem?_append_left hlast] at hlater
      exact Or.inl ⟨run, m, later, hrun, hnm, hlater, htask⟩
    · obtain rfl : m = s.runs.length := by omega
      rw [List.getElem?_concat_length] at hlater
      obtain rfl := Option.some.inj hlater
      exact Or.inr ⟨run, hrun, htask.symm⟩
  · rintro (⟨run, m, later, hrun, hnm, hlater, htask⟩ | ⟨run, hrun, htask⟩)
    · refine ⟨run, m, later, ?_, hnm, ?_, htask⟩
      · rw [List.getElem?_append_left (lt_of_getElem? hrun)]
        exact hrun
      · rw [List.getElem?_append_left (lt_of_getElem? hlater)]
        exact hlater
    · refine ⟨run, s.runs.length, new, ?_, lt_of_getElem? hrun, List.getElem?_concat_length,
        htask.symm⟩
      rw [List.getElem?_append_left (lt_of_getElem? hrun)]
      exact hrun

theorem TracksLast.launch {r : Runner} {s : Shared} (h : TracksLast r s) (hroom : r.isFull = false)
    (record : Record) (claim : Claim) (work : Work) :
    TracksLast (r.launch record claim work s).1 (r.launch record claim work s).2 := by
  let new : Run := ⟨claim, Execution.spawn record.id work, r.connection⟩
  have hrunner : (r.launch record claim work s).1 = r.track record.id s.runs.length := rfl
  have hshared : (r.launch record claim work s).2 = (s.spawn new).2 := rfl
  have hruns : (s.spawn new).2.runs = s.runs ++ [new] := rfl
  rw [hrunner, hshared]
  refine ⟨ids_track_nodup h.ids_nodup _ _, ?_, ?_, ?_, ?_⟩
  · intro id n hmem
    rw [hruns]
    rcases mem_track.mp hmem with ⟨rfl, rfl⟩ | ⟨-, hold⟩
    · exact ⟨new, List.getElem?_concat_length, rfl⟩
    · obtain ⟨run, hrun, htask⟩ := h.run id n hold
      rw [List.getElem?_append_left (lt_of_getElem? hrun)]
      exact ⟨run, hrun, htask⟩
  · intro id n hmem hrestarted
    rw [restarted_spawn_iff] at hrestarted
    rcases mem_track.mp hmem with ⟨rfl, rfl⟩ | ⟨hne, hold⟩
    · have hnone : s.runs[s.runs.length]? = none := List.getElem?_eq_none (Nat.le_refl _)
      rcases hrestarted with ⟨run, -, -, hrun, -⟩ | ⟨run, hrun, -⟩
      · rw [hnone] at hrun
        cases hrun
      · rw [hnone] at hrun
        cases hrun
    · rcases hrestarted with hbefore | ⟨run, hrun, htask⟩
      · exact h.last id n hold hbefore
      -- The new run is of another task than this entry, or it would have taken its place.
      · obtain ⟨run', hrun', htask'⟩ := h.run id n hold
        obtain rfl := Option.some.inj (hrun.symm.trans hrun')
        exact hne (htask'.symm.trans htask)
  · intro n run hrun halive hlast
    rw [restarted_spawn_iff, not_or] at hlast
    rw [hruns] at hrun
    rw [mem_track]
    -- An old run that the new one does not restart is of another task, and keeps its entry.
    by_cases hn : n < s.runs.length
    · rw [List.getElem?_append_left hn] at hrun
      have hne : run.execution.task ≠ record.id := fun htask => hlast.2 ⟨run, hrun, htask⟩
      exact Or.inr ⟨hne, h.alive n run hrun halive hlast.1⟩
    · have hlen := (List.getElem?_eq_some_iff.mp hrun).1
      rw [List.length_append, List.length_singleton] at hlen
      obtain rfl : n = s.runs.length := by omega
      rw [List.getElem?_concat_length] at hrun
      obtain rfl := Option.some.inj hrun
      exact Or.inl ⟨rfl, rfl⟩
  · have hlt : r.tracked.length < r.settings.maxRunning := by
      have hnot : ¬ r.settings.maxRunning ≤ r.tracked.length := by
        simpa [isFull] using hroom
      omega
    rw [settings_track]
    exact (length_track_le _ _).trans hlt

theorem TracksLast.acts {p p' : Runner × Shared} (h : Acts p p') (hp : TracksLast p.1 p.2) :
    TracksLast p'.1 p'.2 ∧ p'.1.settings = p.1.settings := by
  induction h with
  | refl => exact ⟨hp, rfl⟩
  | tail _ hact ih =>
    obtain ⟨hmid, hsettings⟩ := ih
    cases hact with
    | drift hs htracked hset => exact ⟨hmid.drift hs htracked hset, hset.trans hsettings⟩
    | forget r s => exact ⟨hmid.forget, hsettings⟩
    | launch r s record claim work hroom =>
      exact ⟨hmid.launch hroom record claim work, (settings_track _ _).trans hsettings⟩

theorem acts_of_steps {registry : Registry} {p p' : Runner × Shared}
    (h : Relation.ReflTransGen (Step registry) p p') : Acts p p' := by
  induction h with
  | refl => exact .refl
  | tail _ hstep ih => exact ih.trans hstep.acts

theorem Reaches.tracksLast {registry : Registry} {settings : RunnerSettings} {r : Runner}
    {s : Shared} (h : Reaches registry settings r s) :
    TracksLast r s ∧ r.settings = settings := by
  obtain ⟨r₀, s₀, htracked, rfl, hruns, hsteps⟩ := h
  exact TracksLast.acts (acts_of_steps hsteps) (tracksLast_start htracked hruns)

/-! ### Interrupting what is tracked -/

/-- Interrupting some runs interrupts these and leaves the others alone. -/
theorem getElem?_interrupt_all (ts : List (String × Nat)) (s : Shared) (n : Nat) :
    (ts.foldl (fun s t => s.signal t.2 Execution.interrupt) s).runs[n]?
      = (s.runs[n]?).map fun run =>
          if n ∈ ts.map Prod.snd then { run with execution := run.execution.interrupt }
          else run := by
  induction ts generalizing s with
  | nil => simp
  | cons t ts ih =>
    rw [List.foldl_cons, ih, Shared.getElem?_signal, Option.map_map]
    refine congrArg (fun f => Option.map f s.runs[n]?) ?_
    funext run
    simp only [Function.comp_apply, List.map_cons, List.mem_cons]
    by_cases hn : n = t.2
    · by_cases hmem : n ∈ ts.map Prod.snd
      · rw [if_pos hn, if_pos hmem, if_pos (Or.inl hn)]
        rfl
      · rw [if_pos hn, if_neg hmem, if_pos (Or.inl hn)]
    · by_cases hmem : n ∈ ts.map Prod.snd
      · rw [if_neg hn, if_pos hmem, if_pos (Or.inr hmem)]
      · rw [if_neg hn, if_neg hmem, if_neg (by simp [hn, hmem])]

/-- An interrupt of all tracked runs reaches each of them that is alive. -/
theorem interrupted_of_tracked {r : Runner} {s : Shared} {id : String} {n : Nat}
    (hmem : (id, n) ∈ r.tracked) (halive : s.isAlive n = true) :
    ((r.interruptAll s).2.signals n).interrupted = true := by
  obtain ⟨run, hrun, -⟩ := Shared.exists_of_isAlive halive
  have hreached : n ∈ (r.tracked.filter fun t => s.isAlive t.2).map Prod.snd :=
    List.mem_map.mpr ⟨(id, n), List.mem_filter.mpr ⟨hmem, halive⟩, rfl⟩
  have hafter : (r.interruptAll s).2.runs[n]?
      = some { run with execution := run.execution.interrupt } := by
    unfold interruptAll
    dsimp only
    rw [getElem?_interrupt_all, hrun, Option.map_some, if_pos hreached]
  unfold Shared.signals
  rw [hafter]
  rfl

/-! ### Which live runs are tracked -/

/-- The numbers of the runs that have not ended. -/
def aliveRuns (s : Shared) : List Nat := (List.range s.runs.length).filter s.isAlive

/-- **A live run is tracked exactly as long as its task has not been started again.** Where this is
so for all live runs, they are no more than the runner has room for, no two of them are of one task,
and an interrupt of all tracked runs reaches them all. -/
theorem tracked_iff_not_restarted {registry : Registry} {settings : RunnerSettings} {r : Runner}
    {s : Shared} (h : Reaches registry settings r s) :
    (∀ (n : Nat) (run : Run), s.runs[n]? = some run → run.execution.isAlive = true →
        (r.find? run.execution.task = some n ↔ ¬ s.Restarted n))
    ∧ ((∀ n, s.isAlive n = true → ¬ s.Restarted n) →
        (aliveRuns s).length ≤ settings.maxRunning
        ∧ (∀ (n m : Nat) (run run' : Run), s.runs[n]? = some run → s.runs[m]? = some run' →
            run.execution.isAlive = true → run'.execution.isAlive = true →
            run.execution.task = run'.execution.task → n = m)
        ∧ ∀ n, s.isAlive n = true → ((r.interruptAll s).2.signals n).interrupted = true) := by
  obtain ⟨hinv, hsettings⟩ := h.tracksLast
  refine ⟨?_, ?_⟩
  · intro n run hrun halive
    rw [find?_eq_some_iff hinv.ids_nodup]
    exact ⟨hinv.last _ n, hinv.alive n run hrun halive⟩
  · intro hlast
    have htracked : ∀ n, s.isAlive n = true → n ∈ r.tracked.map Prod.snd := by
      intro n hn
      obtain ⟨run, hrun, halive⟩ := Shared.exists_of_isAlive hn
      exact List.mem_map.mpr ⟨_, hinv.alive n run hrun halive (hlast n hn), rfl⟩
    refine ⟨?_, ?_, ?_⟩
    · have hnodup : (aliveRuns s).Nodup := List.nodup_range.filter _
      have hsub : aliveRuns s ⊆ r.tracked.map Prod.snd := fun n hn =>
        htracked n (List.mem_filter.mp hn).2
      calc (aliveRuns s).length ≤ (r.tracked.map Prod.snd).length :=
            (hnodup.subperm hsub).length_le
        _ = r.tracked.length := List.length_map ..
        _ ≤ settings.maxRunning := hsettings ▸ hinv.room
    · intro n m run run' hrun hrun' halive halive' htask
      have hn : s.isAlive n = true := (Shared.isAlive_eq hrun).trans halive
      have hm : s.isAlive m = true := (Shared.isAlive_eq hrun').trans halive'
      -- Of two runs of one task, the earlier would have been restarted.
      rcases Nat.lt_trichotomy n m with hlt | heq | hgt
      · exact absurd ⟨run, m, run', hrun, hlt, hrun', htask.symm⟩ (hlast n hn)
      · exact heq
      · exact absurd ⟨run', n, run, hrun', hgt, hrun, htask⟩ (hlast m hm)
    · intro n hn
      obtain ⟨⟨id, n'⟩, hmem, rfl⟩ := List.mem_map.mp (htracked n hn)
      exact interrupted_of_tracked hmem hn

/-! ### A run out of sight -/

section OutOfSight

/-- A registry with jobs that sleep for a second, whatever happens. -/
def sleepers : Registry :=
  .register {} "job" fun _ => .ok (.script [.hardSleep (.ofSeconds 1), .finish .completed])

/-- A new task in a store without cool-downs. -/
def oneTask : Shared :=
  let settings : StoreSettings := { failover := FailoverPolicy.withFixedDelay {} ⟨0⟩ }
  let s : Shared := { store := .memory {}, connections := [{ settings }], clock := .epoch }
  (s.create 0 "job" none).2

/-- The runner has started the task. -/
def afterStart : Runner × Shared := (startTasks sleepers { node := "a", connection := 0 } oneTask).2

/-- The job has begun to sleep, and the status of the task was changed to failover. -/
def afterFailover : Shared :=
  ((afterStart.2.stepRun 0).call 0 (.change (taskId 1) .failover none)).2.pass 1

/-- The runner has started the task again. -/
def afterRestart : Runner × Shared := (afterStart.1.startTasks sleepers afterFailover).2

theorem reaches_afterStart : Reaches sleepers {} afterStart.1 afterStart.2 :=
  ⟨{ node := "a", connection := 0 }, oneTask, rfl, rfl, rfl, .single (.startTasks _ _)⟩

/-- The runner may start tasks again, whatever others have done to the store and the job. -/
theorem reaches_startTasks {s : Shared} (h : afterStart.2.Drifts s) :
    Reaches sleepers {} (afterStart.1.startTasks sleepers s).2.1
      (afterStart.1.startTasks sleepers s).2.2 := by
  obtain ⟨r, s₀, htracked, hsettings, hruns, hsteps⟩ := reaches_afterStart
  exact ⟨r, s₀, htracked, hsettings, hruns,
    (hsteps.tail (.around afterStart.1 h)).tail (.startTasks _ _)⟩

theorem reaches_afterRestart : Reaches sleepers {} afterRestart.1 afterRestart.2 :=
  reaches_startTasks (((afterStart.2.drifts_stepRun 0).trans (Shared.drifts_call _ 0 _)).trans
    (Shared.drifts_pass _ 1))

/-- A live run that is not tracked can be reached: the status of its task was changed to failover,
and the runner started the task again while the job went on. -/
theorem untracked_run_reachable :
    Reaches sleepers {} afterRestart.1 afterRestart.2
      ∧ afterRestart.2.isAlive 0 = true ∧ afterRestart.2.isAlive 1 = true
      ∧ afterRestart.2.runs.map (fun run => run.execution.task) = [taskId 1, taskId 1]
      ∧ afterRestart.1.find? (taskId 1) = some 1 :=
  ⟨reaches_afterRestart, by decide +kernel⟩

/-- The status of the task was changed to failover while the job slept, and then the job ended. -/
def afterEnd : Shared :=
  (((afterStart.2.stepRun 0).call 0 (.change (taskId 1) .failover none)).2.pass 1000).stepRun 0

/-- The runner has started the task again, with no run of it left. -/
def afterSecond : Runner × Shared := (afterStart.1.startTasks sleepers afterEnd).2

theorem reaches_afterSecond : Reaches sleepers {} afterSecond.1 afterSecond.2 :=
  reaches_startTasks ((((afterStart.2.drifts_stepRun 0).trans (Shared.drifts_call _ 0 _)).trans
    (Shared.drifts_pass _ 1000)).trans (Shared.drifts_stepRun _ 0))

/-- After the first start the only run is tracked and nothing has been restarted. When the task is
started again after the end of that run, the second run is the only one alive: there is room for it,
no other works on the task, and an interrupt reaches it. -/
theorem tracked_iff_not_restarted_afterStart :
    (Reaches sleepers {} afterStart.1 afterStart.2
      ∧ (∀ (n : Nat) (run : Run), afterStart.2.runs[n]? = some run →
          run.execution.isAlive = true →
          (afterStart.1.find? run.execution.task = some n ↔ ¬ afterStart.2.Restarted n)))
    ∧ Reaches sleepers {} afterSecond.1 afterSecond.2
    ∧ afterSecond.2.runs.map (fun run => run.execution.task) = [taskId 1, taskId 1]
    ∧ aliveRuns afterSecond.2 = [1]
    ∧ (aliveRuns afterSecond.2).length ≤ 2
    ∧ (∀ (n m : Nat) (run run' : Run), afterSecond.2.runs[n]? = some run →
        afterSecond.2.runs[m]? = some run' → run.execution.isAlive = true →
        run'.execution.isAlive = true → run.execution.task = run'.execution.task → n = m)
    ∧ ((afterSecond.1.interruptAll afterSecond.2).2.signals 1).interrupted = true := by
  obtain ⟨htracked, hconsequences⟩ := tracked_iff_not_restarted reaches_afterSecond
  have halive : aliveRuns afterSecond.2 = [1] := by decide +kernel
  have honly : ∀ n, afterSecond.2.isAlive n = true → n = 1 := by
    intro n hn
    obtain ⟨run, hrun, -⟩ := Shared.exists_of_isAlive hn
    have hmem : n ∈ aliveRuns afterSecond.2 :=
      List.mem_filter.mpr ⟨List.mem_range.mpr (List.getElem?_eq_some_iff.mp hrun).1, hn⟩
    rw [halive] at hmem
    exact List.mem_singleton.mp hmem
  have hlast : ∀ n, afterSecond.2.isAlive n = true → ¬ afterSecond.2.Restarted n := by
    intro n hn
    obtain rfl := honly n hn
    obtain ⟨run, hrun, hworks⟩ := Shared.exists_of_isAlive hn
    have htask : afterSecond.2.runs[1]?.map (fun run => afterSecond.1.find? run.execution.task)
        = some (some 1) := by decide +kernel
    rw [hrun] at htask
    exact (htracked 1 run hrun hworks).mp (Option.some.inj htask)
  obtain ⟨hroom, hone, hreached⟩ := hconsequences hlast
  exact ⟨⟨reaches_afterStart, (tracked_iff_not_restarted reaches_afterStart).1⟩,
    reaches_afterSecond, by decide +kernel, halive, hroom, hone, hreached 1 (by decide +kernel)⟩

end OutOfSight

end Runner

end TaskCluster
