import Mathlib
import TaskCluster.Proofs.Cluster.Course

/-!
# The course of a cluster takes in what the program does

The steps of a scene are smaller than those of the program, and they come in any order. Here the
program's own steps are taken apart into them: what a loop does when it is its turn
(`Scene.steps_loop`), and what a job does when a step of it is due (`Scene.steps_run`). So whatever
holds in the course of every scene holds while the program runs.
-/

namespace TaskCluster

namespace Scene

variable {x : Scene} {i : Nat}

/-! ### Loops -/

theorem setLoop_share_setLoop (x : Scene) (i : Nat) (l l' : RunnerLoop) (s : Shared) :
    ((x.setLoop i l).share s).setLoop i l' = (x.setLoop i l').share s := by
  have hnodes : ((x.cluster.setLoop i l).nodes.modify i fun node =>
      { node with manager := { node.manager with loop := some l' } })
        = (x.cluster.setLoop i l').nodes := by
    dsimp only [Cluster.setLoop, Cluster.modify]
    rw [List.modify_modify_eq]
    rfl
  dsimp only [Scene.setLoop, share, Cluster.setLoop, Cluster.modify] at hnodes ⊢
  rw [hnodes]

theorem setLoop_self {l : RunnerLoop} (hl : Cluster.managerLoop i x.cluster = some l) :
    x.setLoop i l = x := by
  have hcluster : x.cluster.setLoop i l = x.cluster := by
    refine Cluster.modify_eq_self fun node hi => ?_
    obtain ⟨node', hi', hloop⟩ := Cluster.managerLoop_eq_some_iff.mp hl
    obtain rfl := Option.some.inj (hi.symm.trans hi')
    rw [← hloop]
  unfold Scene.setLoop
  rw [hcluster]

theorem managerLoop_setLoop_share {l : RunnerLoop} (hl : Cluster.managerLoop i x.cluster = some l)
    (l' : RunnerLoop) (s : Shared) :
    Cluster.managerLoop i ((x.setLoop i l').share s).cluster = some l' := by
  obtain ⟨node, hi, -⟩ := Cluster.managerLoop_eq_some_iff.mp hl
  exact (Cluster.managerLoop_setLoop hi l').trans (if_pos rfl)

/-- A loop that has iterated goes on, unless it has ended. -/
theorem isLooping_iterateOnce (registry : Registry) (l : RunnerLoop) (s : Shared)
    (h : (l.iterateOnce registry s).1.isActive = true) :
    (l.iterateOnce registry s).1.isLooping = true := by
  have hphase : (l.iterateOnce registry s).1.phase
      = if (l.runner.runOnce registry s).1.isSome then .ended
        else .waiting ((l.runner.runOnce registry s).2.2.timer + l.pause) := rfl
  unfold RunnerLoop.isActive at h
  unfold RunnerLoop.isLooping
  by_cases hover : (l.runner.runOnce registry s).1.isSome = true
  · rw [hphase, if_pos hover] at h
    cases h
  · rw [hphase, if_neg hover]

/-- An iteration, and a second one that makes up for a notification. -/
theorem steps_iterate {l : RunnerLoop} (hl : Cluster.managerLoop i x.cluster = some l)
    (hlooping : l.isLooping = true) :
    Steps x ((x.setLoop i (l.iterate x.cluster.registry x.cluster.shared).1).share
      (l.iterate x.cluster.registry x.cluster.shared).2) := by
  have hfirst := Step.iterate x i l hl hlooping
  unfold RunnerLoop.iterate
  rcases hout : l.iterateOnce x.cluster.registry x.cluster.shared with ⟨l₁, s₁⟩
  rw [hout] at hfirst
  dsimp only at hfirst ⊢
  split
  case isFalse => exact .single hfirst
  case isTrue hagain =>
    have hactive : (l.iterateOnce x.cluster.registry x.cluster.shared).1.isActive = true := by
      rw [hout]
      exact (Bool.and_eq_true_iff.mp hagain).1
    have hlooping₁ := isLooping_iterateOnce x.cluster.registry l x.cluster.shared hactive
    rw [hout] at hlooping₁
    -- The loop takes note of the notification and iterates again.
    let l₂ : RunnerLoop := { l₁ with runner := { l₁.runner with notified := false } }
    have hnoted := Step.notify _ i l₁ (managerLoop_setLoop_share hl l₁ s₁) false
    rw [setLoop_share_setLoop] at hnoted
    have hsecond := Step.iterate _ i l₂ (managerLoop_setLoop_share hl l₂ s₁) hlooping₁
    rw [setLoop_share_setLoop] at hsecond
    exact ((Relation.ReflTransGen.single hfirst).tail hnoted).tail hsecond

/-- **What a loop does in its turn is a course of steps**, as long as it is not asked to stop. -/
theorem steps_loop {l : RunnerLoop} (hl : Cluster.managerLoop i x.cluster = some l)
    (hstopped : l.stopped = false) :
    Steps x ((x.setLoop i (l.step x.cluster.registry x.cluster.shared).1).share
      (l.step x.cluster.registry x.cluster.shared).2) := by
  have hstays : Steps x ((x.setLoop i l).share x.cluster.shared) := by
    rw [setLoop_self hl]
    exact .refl
  obtain ⟨runner, phase, stopped⟩ := l
  dsimp only at hstopped
  subst hstopped
  unfold RunnerLoop.step
  cases phase with
  | starting till =>
    dsimp only
    rw [if_neg Bool.false_ne_true]
    split
    · exact steps_iterate hl rfl
    · exact hstays
  | waiting till =>
    dsimp only
    rw [if_neg Bool.false_ne_true]
    split
    · let l' : RunnerLoop := ⟨{ runner with notified := false }, .waiting till, false⟩
      have hnoted : Steps x ((x.setLoop i l').share x.cluster.shared) :=
        .single (Step.notify x i _ hl false)
      have hrest := steps_iterate (managerLoop_setLoop_share hl l' x.cluster.shared) rfl
      rw [setLoop_share_setLoop] at hrest
      exact hnoted.trans hrest
    · split
      · exact steps_iterate hl rfl
      · exact hstays
  | _ => exact hstays

/-! ### Jobs -/

/-- What a run does to the store and a signal to a run do not meet. -/
theorem effect_signal (s : Shared) (n : Nat) (f : Execution → Execution) (run : Run) (e : Effect) :
    (s.signal n f).effect run e = (s.effect run e).signal n f := by
  cases e <;> rfl

theorem foldl_effect_signal (s : Shared) (n : Nat) (f : Execution → Execution) (run : Run)
    (effects : List Effect) :
    effects.foldl (fun s e => s.effect run e) (s.signal n f)
      = (effects.foldl (fun s e => s.effect run e) s).signal n f := by
  induction effects generalizing s with
  | nil => rfl
  | cons e effects ih => rw [List.foldl_cons, List.foldl_cons, effect_signal, ih]

/-- Lines that a job writes, one after the other. -/
theorem steps_logs {n : Nat} {run : Run} (hrun : x.cluster.shared.runs[n]? = some run)
    (lines : List String) :
    Steps x (x.share
      ((lines.map Effect.log).foldl (fun s e => s.effect run e) x.cluster.shared)) := by
  induction lines generalizing x with
  | nil => exact .refl
  | cons line lines ih =>
    have hlog := Step.log x n run hrun line
    have hrest := ih (x := x.share (x.cluster.shared.effect run (.log line))) hrun
    exact (Relation.ReflTransGen.single hlog).trans hrest

/-- How a job moves on in a step that is due: it writes some lines, and then it goes on or ends. -/
inductive Moves (y : Execution) : Execution × List Effect → Prop where
  | on (z : Execution) (lines : List String) (task : z.task = y.task)
    (signals : z.signals = y.signals) (alive : z.isAlive = true) :
    Moves y (z, lines.map Effect.log)
  | ends (lines : List String) (e : Ending) :
    Moves y ((y.finish e).1, lines.map Effect.log ++ [(y.finish e).2])

theorem moves_run (y : Execution) (time : Nat) (work : Work) : Moves y (y.run time work) := by
  unfold Execution.run
  rcases work.burst y.task y.signals with ⟨lines, halt⟩
  cases halt with
  | ended e => exact .ends lines e
  | _ => exact .on _ lines rfl rfl rfl

/-- A step of a job leaves it as it is, or moves it on. -/
theorem step_cases (y : Execution) (time : Nat) :
    y.step time = (y, []) ∨ y.isAlive = true ∧ Moves y (y.step time) := by
  rcases y.step_cases time with ⟨work, hresumes⟩ | hends | hsame
  · rw [hresumes.step_eq]
    exact .inr ⟨hresumes.isAlive, moves_run y time work⟩
  · rw [Execution.step_of_ends hends]
    exact .inr ⟨hends.isAlive, .ends [] _⟩
  · exact .inl hsame

/-- **A step of a job that is due is a course of steps.** -/
theorem steps_run {n : Nat} (hn : n ∉ x.reported) :
    Steps x (x.share (x.cluster.shared.stepRun n)) := by
  unfold Shared.stepRun
  cases hrun : x.cluster.shared.runs[n]? with
  | none => exact .refl
  | some run =>
    dsimp only
    -- A job that moves on does so before its effects here, and after them in the course.
    rw [foldl_effect_signal]
    rcases step_cases run.execution x.cluster.shared.timer with hsame | ⟨halive, hmoves⟩
    · rw [hsame]
      dsimp only [List.foldl_nil]
      rw [Shared.signal_self hrun]
      exact .refl
    · -- The job writes its lines before it moves on or reports.
      have hmember : ∀ lines : List String, (((lines.map Effect.log).foldl
          (fun s e => s.effect run e) x.cluster.shared).runs)[n]? = some run := fun lines => by
        rw [Shared.runs_foldl_effect, hrun]
      have hworking : ∀ lines : List String, Working (x.share ((lines.map Effect.log).foldl
          (fun s e => s.effect run e) x.cluster.shared)) n := fun lines =>
        ⟨(Shared.isAlive_eq (hmember lines)).trans halive, hn⟩
      generalize run.execution.step x.cluster.shared.timer = out at hmoves
      cases hmoves with
      | on z lines htask _ hz =>
        exact (steps_logs hrun lines).tail
          (.work _ n run (hmember lines) (hworking lines) z htask hz)
      | ends lines e =>
        have hreport := (steps_logs hrun lines).tail
          (.report _ n run (hmember lines) (hworking lines) e)
        have hbury := hreport.tail (.bury _ n List.mem_cons_self)
        rw [List.foldl_append, List.foldl_cons, List.foldl_nil]
        rw [List.erase_cons_head] at hbury
        have hend : (((lines.map Effect.log).foldl (fun s e => s.effect run e)
              x.cluster.shared).effect run (run.execution.finish e).2).signal n
                (fun _ => (run.execution.finish e).1)
            = (((lines.map Effect.log).foldl (fun s e => s.effect run e)
              x.cluster.shared).effect run (run.execution.finish e).2).signal n
                (fun y => { y with phase := .ended }) := by
          refine Shared.signal_congr fun run' hrun' => ?_
          rw [Shared.runs_effect, hmember lines] at hrun'
          obtain rfl := Option.some.inj hrun'
          rfl
        rw [hend]
        exact hbury

end Scene

end TaskCluster
