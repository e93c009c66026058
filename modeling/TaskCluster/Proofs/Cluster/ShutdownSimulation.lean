import Mathlib
import TaskCluster.Proofs.Cluster.Moves
import TaskCluster.Proofs.Cluster.Shutdown
import TaskCluster.Proofs.Cluster.Simulation

/-!
# The watched steps take in what the program does

The steps of a watched loop are smaller than those of the program. Here the program's own steps are
taken apart into them: a turn of the loop, with its iterations and its shutdown
(`Watched.steps_loop`), a step of a job (`Watched.steps_stepRun`) and a request to cancel a task
(`Watched.steps_cancelTask`). An iteration that overflows ends the loop at once, in the middle of
what it does.

Other runners claim tasks and launch runs too. A claim that is handed out to them is none of those
that the watched runner has made, because it counts one run more, so their runs are none of the busy
ones (`Watched.Minded.steps_deeds`). Then whatever is due in a cluster at one time is a course of
steps of each loop in it (`Watched.Minded.steps_settle`).
-/

namespace TaskCluster

namespace RunnerLoop

/-- The loop after a part of an iteration: an overflow has ended it. -/
def after (l : RunnerLoop) (result : Except Abort Unit) : RunnerLoop :=
  if (Runner.overflow? result).isSome then { l with phase := .ended } else l

theorem after_of_some (l : RunnerLoop) {result : Except Abort Unit} {o : Overflow}
    (h : Runner.overflow? result = some o) : l.after result = { l with phase := .ended } := by
  rw [after, h]
  rfl

theorem after_of_none (l : RunnerLoop) {result : Except Abort Unit}
    (h : Runner.overflow? result = none) : l.after result = l := by
  rw [after, h]
  rfl

end RunnerLoop

namespace Watched

/-! ### Signals -/

/-- A change of a run that is not busy, and does not become so, is none of the busy runs. -/
theorem busy_signal_iff {s : Shared} {claims : List (String × Claim)} {reported : List Nat}
    {n : Nat} {f : Execution → Execution}
    (hf : ∀ run, s.runs[n]? = some run → (f run.execution).task = run.execution.task
      ∧ ((f run.execution).isAlive = true → run.execution.isAlive = true))
    (hidle : ∀ run, ¬ s.Busy claims reported n run) (k : Nat) (run : Run) :
    (s.signal n f).Busy claims reported k run ↔ s.Busy claims reported k run := by
  have hmember := s.getElem?_signal n f k
  constructor
  · intro hbusy
    rw [hbusy.member] at hmember
    obtain ⟨old, hold, heq⟩ := Option.map_eq_some_iff.mp hmember.symm
    by_cases hkn : k = n
    · subst hkn
      rw [if_pos rfl] at heq
      subst heq
      obtain ⟨htask, halive⟩ := hf old hold
      refine absurd ⟨hold, halive hbusy.alive, hbusy.unreported, ?_⟩ (hidle old)
      have hclaimed := hbusy.claimed
      dsimp only at hclaimed
      rwa [htask] at hclaimed
    · rw [if_neg hkn] at heq
      subst heq
      exact ⟨hold, hbusy.alive, hbusy.unreported, hbusy.claimed⟩
  · intro hbusy
    have hkn : k ≠ n := by
      rintro rfl
      exact hidle run hbusy
    rw [hbusy.member, Option.map_some, if_neg hkn] at hmember
    exact ⟨hmember, hbusy.alive, hbusy.unreported, hbusy.claimed⟩

theorem length_signal (s : Shared) (n : Nat) (f : Execution → Execution) :
    (s.signal n f).runs.length = s.runs.length := List.length_modify ..

/-- A change of a run that is not busy is a step. -/
theorem step_idle (x : Watched) {n : Nat} {f : Execution → Execution}
    (hf : ∀ run, x.shared.runs[n]? = some run → (f run.execution).task = run.execution.task
      ∧ ((f run.execution).isAlive = true → run.execution.isAlive = true))
    (hidle : ∀ run, ¬ x.Busy n run) : Step x { x with shared := x.shared.signal n f } :=
  .aside _ rfl rfl rfl rfl (fun _ => Or.inr rfl) (length_signal ..).ge (busy_signal_iff hf hidle)

/-- A signal that neither ends a run nor takes an interrupt back is a step. -/
theorem step_signal (x : Watched) (n : Nat) {f : Execution → Execution}
    (hf : ∀ y : Execution, (f y).task = y.task ∧ (f y).isAlive = y.isAlive
      ∧ (y.signals.interrupted = true → (f y).signals.interrupted = true)) :
    Step x { x with shared := x.shared.signal n f } := by
  by_cases hbusy : ∃ run, x.Busy n run
  · obtain ⟨run, hbusy⟩ := hbusy
    have hsame : x.shared.signal n f = x.shared.signal n fun _ => f run.execution := by
      refine Shared.signal_congr fun run' hrun' => ?_
      obtain rfl := Option.some.inj (hbusy.member.symm.trans hrun')
      rfl
    obtain ⟨htask, halive, hinterrupted⟩ := hf run.execution
    rw [hsame]
    exact .work n run hbusy _ htask (halive.trans hbusy.alive) hinterrupted
  · refine x.step_idle (fun run _ => ?_) fun run hrun => hbusy ⟨run, hrun⟩
    obtain ⟨htask, halive, -⟩ := hf run.execution
    exact ⟨htask, halive.symm.trans⟩

theorem step_interrupt (x : Watched) (n : Nat) :
    Step x { x with shared := x.shared.signal n Execution.interrupt } :=
  x.step_signal n fun _ => ⟨rfl, rfl, fun _ => rfl⟩

theorem step_cancelRun (x : Watched) (n : Nat) :
    Step x { x with shared := Runner.cancelRun x.shared n } :=
  x.step_signal n fun _ => ⟨rfl, rfl, fun _ => rfl⟩

/-- A request to cancel a task reaches its run. -/
theorem steps_cancelTask (x : Watched) (id : String) :
    Steps x { x with shared := x.loop.runner.cancelTask id x.shared } := by
  unfold Runner.cancelTask
  split
  · exact .refl
  split
  · exact .single (x.step_cancelRun _)
  · exact .refl

/-! ### Parts of an iteration -/

theorem step_of_call (x : Watched) {s : Shared} {k : Nat} {c : Call}
    {answer : Except Abort c.Result} (h : x.shared.call k c = (answer, s))
    (hc : c.created? = none) (hhand : c.startsByHand = false) :
    Step x { x with shared := s } := by
  have hcall := Step.call (x := x) k c hc hhand
  rwa [h] at hcall

/-- A call that fails ends the loop if it overflows. -/
theorem steps_failed (x : Watched) {s : Shared} {k : Nat} {c : Call} {e : Abort}
    (h : x.shared.call k c = (.error e, s)) (hc : c.created? = none)
    (hhand : c.startsByHand = false) :
    Steps x { x with loop := x.loop.after (.error e), shared := s } := by
  cases e with
  | failure f => exact .single (x.step_of_call h hc hhand)
  | overflow o =>
    have hover := Step.overflow (x := x) o (Or.inr ⟨k, c, hc, congrArg Prod.fst h⟩)
    exact (Relation.ReflTransGen.single hover).tail (step_of_call _ h hc hhand)

theorem steps_relay (x : Watched) (record : Option Record) (n : Nat) :
    Steps x { x with shared := Runner.relay record n x.shared } := by
  unfold Runner.relay
  split
  · exact .refl
  · exact .single (x.step_interrupt n)
  split
  · exact .single (x.step_cancelRun n)
  split
  · exact .refl
  · exact .single (x.step_interrupt n)

theorem steps_relayAll (x : Watched) (k : Nat) (ts : List (String × Nat)) :
    Steps x { x with
      loop := x.loop.after (Runner.relayAll k ts x.shared).1
      shared := (Runner.relayAll k ts x.shared).2 } := by
  induction ts generalizing x with
  | nil => exact .refl
  | cons t rest ih =>
    obtain ⟨id, n⟩ := t
    rw [Runner.relayAll]
    split
    case h_1 hget => exact x.steps_failed hget rfl rfl
    case h_2 record s hget =>
      have hrelay := steps_relay { x with shared := s } record n
      exact (hrelay.head (x.step_of_call hget rfl rfl)).trans
        (ih { x with shared := Runner.relay record n s })

theorem steps_heartbeatIfDue (x : Watched) :
    Steps x { x with
      loop := (x.loop.withRunner (x.loop.runner.heartbeatIfDue x.shared).2.1).after
        (x.loop.runner.heartbeatIfDue x.shared).1
      shared := (x.loop.runner.heartbeatIfDue x.shared).2.2 } := by
  unfold Runner.heartbeatIfDue
  split
  case isFalse => exact .refl
  case isTrue =>
    unfold Runner.heartbeat
    split
    case h_1 hnone => exact .single (.overflow .duration (Or.inl hnone))
    case h_2 =>
      split
      case h_1 hbeat => exact x.steps_failed hbeat rfl rfl
      case h_2 s hbeat =>
        exact (Relation.ReflTransGen.single (x.step_of_call hbeat rfl rfl)).tail
          (.beat (some s.timer))

/-- A claim takes a record in hand. -/
theorem step_of_claim (x : Watched) {s : Shared} {record : Record} {c : Claim}
    (hserving : x.loop.mayClaim = true) (hfree : x.hand = none)
    (h : x.shared.call x.loop.runner.connection (.claim x.loop.runner.node)
      = (.ok (some record), s))
    (hclaimed : record.claim? = some c) :
    Step x { x with shared := s, hand := some (record, c) } := by
  have hclaim := Step.claim (x := x) hserving hfree record c (congrArg Prod.fst h) hclaimed
  rwa [h] at hclaim

/-- A task in hand that cannot be started is ended. -/
theorem step_of_refusal (x : Watched) {s : Shared} {record : Record} {c : Claim}
    {message : Option String} {answer : Except Abort Bool} (hhand : x.hand = some (record, c))
    (h : x.shared.call x.loop.runner.connection
      (.changeFor record.id c .finishedError message) = (answer, s)) :
    Step x { x with shared := s, claims := (record.id, c) :: x.claims, hand := none } := by
  have hrefuse := Step.refuse (x := x) record c hhand message
  rwa [h] at hrefuse

/-- The loop ends if the call to end that task overflows. -/
theorem steps_refusalFailed (x : Watched) {s : Shared} {record : Record} {c : Claim}
    {message : Option String} {e : Abort} (hhand : x.hand = some (record, c))
    (h : x.shared.call x.loop.runner.connection
      (.changeFor record.id c .finishedError message) = (.error e, s)) :
    Steps x { x with
      loop := x.loop.after (.error e)
      shared := s
      claims := (record.id, c) :: x.claims
      hand := none } := by
  cases e with
  | failure f => exact .single (x.step_of_refusal hhand h)
  | overflow o =>
    have hover := Step.overflow (x := x) o (Or.inr ⟨_, _, rfl, congrArg Prod.fst h⟩)
    exact (Relation.ReflTransGen.single hover).tail (step_of_refusal _ hhand h)

/-- Starting tasks is a course of steps. -/
theorem steps_starting {registry : Registry} {r : Runner} {s : Shared}
    {out : Except Abort Unit × Runner × Shared} (h : Runner.Starting registry r s out)
    {l : RunnerLoop} (hserving : l.mayClaim = true) (claims : List (String × Claim))
    (reported : List Nat) :
    ∃ claims', Steps ⟨l.withRunner r, s, claims, none, reported⟩
      ⟨(l.withRunner out.2.1).after out.1, out.2.2, claims', none, reported⟩ := by
  induction h generalizing claims with
  | rest => exact ⟨claims, .refl⟩
  | claimFailed answer => exact ⟨claims, steps_failed _ answer rfl rfl⟩
  | drained answer => exact ⟨claims, .single (step_of_call _ answer rfl rfl)⟩
  | unclaimed answer _ _ ih =>
    obtain ⟨claims', hrest⟩ := ih claims
    exact ⟨claims', hrest.head (step_of_call _ answer rfl rfl)⟩
  | @launched r s s' record c work _ _ answer claimed _ _ ih =>
    obtain ⟨claims', hrest⟩ := ih ((record.id, c) :: claims)
    have hlaunch := Step.launch (x := ⟨l.withRunner r, s', claims, some (record, c), reported⟩)
      record c rfl work
    exact ⟨claims', (hrest.head hlaunch).head (step_of_claim _ hserving rfl answer claimed)⟩
  | @refusalFailed r s s' _ record c _ _ answer claimed _ refusal =>
    have hclaim := step_of_claim ⟨l.withRunner r, s, claims, none, reported⟩ hserving rfl answer
      claimed
    exact ⟨(record.id, c) :: claims, .head hclaim (steps_refusalFailed _ rfl refusal)⟩
  | @refused r s s' _ record c _ _ _ answer claimed _ refusal _ ih =>
    obtain ⟨claims', hrest⟩ := ih ((record.id, c) :: claims)
    have hclaim := step_of_claim ⟨l.withRunner r, s, claims, none, reported⟩ hserving rfl answer
      claimed
    exact ⟨claims', (hrest.head (step_of_refusal _ rfl refusal)).head hclaim⟩

theorem steps_startUpTo (registry : Registry) (fuel : Nat) (x : Watched)
    (hserving : x.loop.mayClaim = true) (hfree : x.hand = none) :
    ∃ claims, Steps x
      ⟨(x.loop.withRunner (Runner.startUpTo registry fuel x.loop.runner x.shared).2.1).after
          (Runner.startUpTo registry fuel x.loop.runner x.shared).1,
        (Runner.startUpTo registry fuel x.loop.runner x.shared).2.2, claims, none, x.reported⟩ := by
  obtain ⟨l, s, claims, hand, reported⟩ := x
  obtain rfl : hand = none := hfree
  exact steps_starting (Runner.starting_startUpTo registry fuel l.runner s) hserving claims reported

/-! ### Turns of the loop -/

/-- **An iteration is a course of steps**, whether it overflows or not. -/
theorem steps_iterateOnce (registry : Registry) (x : Watched) (hlooping : x.loop.isLooping = true)
    (hfree : x.hand = none) :
    ∃ claims, Steps x
      ⟨(x.loop.iterateOnce registry x.shared).1, (x.loop.iterateOnce registry x.shared).2, claims,
        none, x.reported⟩ := by
  have hrelay := x.steps_relayAll x.loop.runner.connection (x.loop.runner.undisturbed x.shared)
  unfold RunnerLoop.iterateOnce Runner.runOnce Runner.relayCancels
  generalize Runner.relayAll x.loop.runner.connection (x.loop.runner.undisturbed x.shared) x.shared
    = relayed at hrelay ⊢
  obtain ⟨answer, s₁⟩ := relayed
  dsimp only at hrelay ⊢
  cases hover : Runner.overflow? answer with
  | some o =>
    rw [x.loop.after_of_some hover] at hrelay
    refine ⟨x.claims, ?_⟩
    rw [← hfree]
    exact hrelay
  | none =>
    rw [x.loop.after_of_none hover] at hrelay
    have hbeat := steps_heartbeatIfDue { x with shared := s₁ }
    dsimp only at hbeat ⊢
    generalize x.loop.runner.heartbeatIfDue s₁ = beaten at hbeat ⊢
    obtain ⟨answer₂, r₂, s₂⟩ := beaten
    dsimp only at hbeat ⊢
    cases hover₂ : Runner.overflow? answer₂ with
    | some o =>
      rw [RunnerLoop.after_of_some _ hover₂] at hbeat
      refine ⟨x.claims, ?_⟩
      rw [← hfree]
      exact hrelay.trans hbeat
    | none =>
      rw [RunnerLoop.after_of_none _ hover₂] at hbeat
      let x₂ : Watched := { x with loop := x.loop.withRunner r₂, shared := s₂ }
      let x₃ : Watched := { x₂ with loop := x₂.loop.withRunner (r₂.forgetEnded s₂) }
      have hforget : Step x₂ x₃ := .forget
      obtain ⟨claims, hstart⟩ := x₃.steps_startUpTo registry (s₂.store.size + 1)
        (RunnerLoop.mayClaim_of_isLooping (l := x₃.loop) hlooping) hfree
      have hbefore := ((hrelay.trans hbeat).tail hforget).trans hstart
      dsimp only [x₃, x₂, RunnerLoop.withRunner] at hbefore
      refine ⟨claims, ?_⟩
      unfold Runner.startTasks
      cases hover₃ : Runner.overflow?
          (Runner.startUpTo registry (s₂.store.size + 1) (r₂.forgetEnded s₂) s₂).1 with
      | some o =>
        rw [RunnerLoop.after_of_some _ hover₃] at hbefore
        exact hbefore
      | none =>
        rw [RunnerLoop.after_of_none _ hover₃] at hbefore
        let out := Runner.startUpTo registry (s₂.store.size + 1) (r₂.forgetEnded s₂) s₂
        let x₄ : Watched := ⟨x.loop.withRunner out.2.1, out.2.2, claims, none, x.reported⟩
        have hrest := Step.rest (x := x₄) hlooping rfl (out.2.2.timer + x.loop.pause)
        exact hbefore.tail hrest

theorem steps_iterate (registry : Registry) (x : Watched) (hlooping : x.loop.isLooping = true)
    (hfree : x.hand = none) :
    ∃ claims, Steps x
      ⟨(x.loop.iterate registry x.shared).1, (x.loop.iterate registry x.shared).2, claims, none,
        x.reported⟩ := by
  obtain ⟨claims, hfirst⟩ := x.steps_iterateOnce registry hlooping hfree
  have hactive := Scene.isLooping_iterateOnce registry x.loop x.shared
  unfold RunnerLoop.iterate
  generalize x.loop.iterateOnce registry x.shared = first at hfirst hactive ⊢
  obtain ⟨l, s⟩ := first
  dsimp only at hfirst hactive ⊢
  split
  case isFalse => exact ⟨claims, hfirst⟩
  case isTrue hagain =>
    -- The runner was told of a new task meanwhile, so it iterates again.
    let x₁ : Watched :=
      ⟨l.withRunner { l.runner with notified := false }, s, claims, none, x.reported⟩
    have hlooping₁ : x₁.loop.isLooping = true := hactive (Bool.and_eq_true_iff.mp hagain).1
    obtain ⟨claims', hsecond⟩ := x₁.steps_iterateOnce registry hlooping₁ rfl
    exact ⟨claims', (hfirst.tail (.notify false)).trans hsecond⟩

/-- **What a loop does in its turn is a course of steps.** -/
theorem steps_loop (registry : Registry) (x : Watched) (hfree : x.hand = none) :
    ∃ claims, Steps x
      ⟨(x.loop.step registry x.shared).1, (x.loop.step registry x.shared).2, claims, none,
        x.reported⟩ := by
  have hstays : Steps x ⟨x.loop, x.shared, x.claims, none, x.reported⟩ := by
    rw [← hfree]
  have hwind : x.loop.isLooping = true → x.loop.stopped = true → Steps x
      ⟨(x.loop.windDown x.shared).1, (x.loop.windDown x.shared).2, x.claims, none, x.reported⟩ := by
    intro hlooping hstopped
    have hstep := Step.windDown hlooping hstopped hfree
    rw [hfree] at hstep
    exact .single hstep
  unfold RunnerLoop.step
  cases hphase : x.loop.phase with
  | idle | stopping | ended => exact ⟨x.claims, hstays⟩
  | starting till =>
    have hlooping : x.loop.isLooping = true := by
      unfold RunnerLoop.isLooping
      rw [hphase]
    dsimp only
    split
    case isTrue hstopped => exact ⟨x.claims, hwind hlooping hstopped⟩
    split
    · exact x.steps_iterate registry hlooping hfree
    · exact ⟨x.claims, hstays⟩
  | waiting till =>
    have hlooping : x.loop.isLooping = true := by
      unfold RunnerLoop.isLooping
      rw [hphase]
    dsimp only
    split
    case isTrue hstopped => exact ⟨x.claims, hwind hlooping hstopped⟩
    split
    · let x₁ : Watched :=
        { x with loop := x.loop.withRunner { x.loop.runner with notified := false } }
      obtain ⟨claims, hrest⟩ := x₁.steps_iterate registry hlooping hfree
      exact ⟨claims, hrest.head (.notify false)⟩
    split
    · exact x.steps_iterate registry hlooping hfree
    · exact ⟨x.claims, hstays⟩

/-! ### Jobs -/

/-- Lines that a job writes, one after the other. -/
theorem steps_logs (x : Watched) (run : Run) (lines : List String) :
    Steps x { x with
      shared := (lines.map Effect.log).foldl (fun s e => s.effect run e) x.shared } := by
  induction lines generalizing x with
  | nil => exact .refl
  | cons line lines ih =>
    have hlog : Step x { x with shared := x.shared.effect run (.log line) } := .call _ _ rfl rfl
    exact (ih _).head hlog

/-- What a run does to the store leaves it among the runs as it is. -/
theorem getElem?_effects {s : Shared} {n : Nat} {run : Run} (hrun : s.runs[n]? = some run)
    (effects : List Effect) :
    (effects.foldl (fun s e => s.effect run e) s).runs[n]? = some run := by
  rw [Shared.runs_foldl_effect, hrun]

/-- A busy run moves on: it goes on, or it reports and ends. -/
theorem steps_moves_busy (x : Watched) {n : Nat} {run : Run} (hbusy : x.Busy n run)
    {out : Execution × List Effect} (hmoves : Scene.Moves run.execution out) :
    ∃ reported, Steps x { x with
      shared := (out.2.foldl (fun s e => s.effect run e) x.shared).signal n fun _ => out.1
      reported } := by
  have hstays : ∀ lines : List String, ((lines.map Effect.log).foldl
      (fun s e => s.effect run e) x.shared).Busy x.claims x.reported n run := fun lines =>
    ⟨getElem?_effects hbusy.member _, hbusy.alive, hbusy.unreported, hbusy.claimed⟩
  cases hmoves with
  | on z lines htask hsignals hz =>
    refine ⟨x.reported, (x.steps_logs run lines).tail ?_⟩
    exact .work n run (hstays lines) z htask hz fun h => by rw [hsignals]; exact h
  | ends lines e =>
    refine ⟨n :: x.reported, ((x.steps_logs run lines).tail
      (.report n run (hstays lines) e)).tail ?_⟩
    rw [List.foldl_append, List.foldl_cons, List.foldl_nil]
    refine step_idle _ (fun run' hrun' => ?_) fun run' hrun' =>
      hrun'.unreported List.mem_cons_self
    rw [Shared.runs_effect, getElem?_effects hbusy.member] at hrun'
    obtain rfl := Option.some.inj hrun'
    exact ⟨rfl, nofun⟩

/-- A run of another, or one that has reported, moves on as it likes. -/
theorem steps_moves_idle (x : Watched) {n : Nat} {run : Run} (hrun : x.shared.runs[n]? = some run)
    (halive : run.execution.isAlive = true) (hidle : ¬ x.Busy n run)
    {out : Execution × List Effect} (hmoves : Scene.Moves run.execution out) :
    Steps x { x with
      shared := (out.2.foldl (fun s e => s.effect run e) x.shared).signal n fun _ => out.1 } := by
  have hstays : ∀ effects : List Effect, ∀ run', ¬ (effects.foldl
      (fun s e => s.effect run e) x.shared).Busy x.claims x.reported n run' := by
    intro effects run' h
    obtain rfl := Option.some.inj ((getElem?_effects hrun effects).symm.trans h.member)
    exact hidle ⟨hrun, h.alive, h.unreported, h.claimed⟩
  cases hmoves with
  | on z lines htask hsignals hz =>
    refine (x.steps_logs run lines).tail (step_idle _ (fun run' hrun' => ?_) (hstays _))
    rw [getElem?_effects hrun] at hrun'
    obtain rfl := Option.some.inj hrun'
    exact ⟨htask, fun _ => halive⟩
  | ends lines e =>
    have hreport := (x.steps_logs run lines).tail (.call run.connection
      (.changeFor run.execution.task run.claim (e.report run.execution.signals).1
        (e.report run.execution.signals).2) rfl rfl)
    have hend := hstays (lines.map Effect.log ++ [(run.execution.finish e).2])
    rw [List.foldl_append, List.foldl_cons, List.foldl_nil] at hend ⊢
    refine hreport.tail (step_idle _ (fun run' hrun' => ?_) hend)
    obtain rfl := Option.some.inj ((getElem?_effects hrun (lines.map Effect.log)).symm.trans hrun')
    exact ⟨rfl, nofun⟩

/-- **A step of a job that is due is a course of steps.** -/
theorem steps_stepRun (x : Watched) (n : Nat) :
    ∃ reported, Steps x { x with shared := x.shared.stepRun n, reported } := by
  unfold Shared.stepRun
  cases hrun : x.shared.runs[n]? with
  | none => exact ⟨x.reported, .refl⟩
  | some run =>
    dsimp only
    -- A job that moves on does so before its effects here, and after them in the course.
    rw [Scene.foldl_effect_signal]
    rcases Scene.step_cases run.execution x.shared.timer with hsame | ⟨halive, hmoves⟩
    · rw [hsame]
      dsimp only [List.foldl_nil]
      rw [Shared.signal_self hrun]
      exact ⟨x.reported, .refl⟩
    by_cases hbusy : x.Busy n run
    · exact x.steps_moves_busy hbusy hmoves
    · exact ⟨x.reported, x.steps_moves_idle hrun halive hbusy hmoves⟩

/-! ### Other runners -/

/-- A claim that is handed out now is none of those that the runner has made. -/
theorem Minded.claim_notMem {x : Watched} (h : x.Minded) (hfree : x.hand = none) {k : Nat}
    {node : String} {record : Record} {c : Claim}
    (hanswer : (x.shared.call k (.claim node)).1 = .ok (some record))
    (hc : record.claim? = some c) : (record.id, c) ∉ x.claims := by
  obtain ⟨m, htends⟩ := h.tends
  rw [pending, hfree] at htends
  obtain ⟨_, _, -, hclaim⟩ := htends.claim k hanswer hc
  exact fun hmem => UInt32.lt_irrefl _ (hclaim.newest record.id c c rfl hmem)

/-- A run under a claim of another is none of the busy ones. -/
theorem step_spawn (x : Watched) {new : Run}
    (hother : (new.execution.task, new.claim) ∉ x.claims) :
    Step x { x with shared := (x.shared.spawn new).2 } := by
  have hlength : x.shared.runs.length ≤ (x.shared.spawn new).2.runs.length := by
    dsimp only [Shared.spawn]
    rw [List.length_append]
    exact Nat.le_add_right ..
  refine .aside _ rfl rfl rfl rfl (fun _ => Or.inr rfl) hlength fun n run => ?_
  have hmember : (x.shared.spawn new).2.runs[n]? = some run
      ↔ x.shared.runs[n]? = some run ∨ n = x.shared.runs.length ∧ new = run := by
    dsimp only [Shared.spawn]
    rcases Nat.lt_trichotomy n x.shared.runs.length with hlt | rfl | hgt
    · rw [List.getElem?_append_left hlt]
      exact ⟨Or.inl, fun h => h.resolve_right fun hlast => Nat.ne_of_lt hlt hlast.1⟩
    · simp
    · have hbefore : x.shared.runs[n]? = none := List.getElem?_eq_none (Nat.le_of_lt hgt)
      have hafter : (x.shared.runs ++ [new])[n]? = none := by
        rw [List.getElem?_append_right (Nat.le_of_lt hgt)]
        exact List.getElem?_eq_none (Nat.sub_pos_of_lt hgt)
      rw [hbefore, hafter]
      exact ⟨nofun, fun h => h.elim nofun fun hlast => absurd hlast.1 (Nat.ne_of_gt hgt)⟩
  constructor
  · intro hbusy
    rcases hmember.mp hbusy.member with hold | ⟨-, rfl⟩
    · exact ⟨hold, hbusy.alive, hbusy.unreported, hbusy.claimed⟩
    · exact absurd hbusy.claimed hother
  · intro hbusy
    exact ⟨hmember.mpr (Or.inl hbusy.member), hbusy.alive, hbusy.unreported, hbusy.claimed⟩

/-- What another runner does is a course of steps. -/
theorem Minded.steps_deed {x : Watched} (h : x.Minded) (hfree : x.hand = none) {s : Shared}
    (hdeed : x.shared.Deed s) : Steps x { x with shared := s } := by
  cases hdeed with
  | call k c hcreated hbyHand => exact .single (.call k c hcreated hbyHand)
  | signal n f hsoft => exact .single (x.step_signal n hsoft)
  | launch r record c work hanswer hclaimed =>
    have hcall := Step.call (x := x) r.connection (.claim r.node) rfl rfl
    have hother := h.claim_notMem hfree hanswer hclaimed
    exact (Relation.ReflTransGen.single hcall).tail (step_spawn _ hother)

/-- **What other runners do is a course of steps.** -/
theorem Minded.steps_deeds {x : Watched} (h : x.Minded) (hfree : x.hand = none) {s : Shared}
    (hdeeds : x.shared.Deeds s) : Steps x { x with shared := s } := by
  induction hdeeds with
  | refl => exact .refl
  | tail _ hdeed ih => exact ih.trans ((h.steps ih).steps_deed hfree hdeed)

/-! ### Clusters -/

/-- The runs make their steps, run by run. -/
theorem steps_stepRuns (x : Watched) :
    ∃ reported, Steps x { x with shared := x.shared.stepRuns, reported } := by
  unfold Shared.stepRuns
  induction List.range x.shared.runs.length generalizing x with
  | nil => exact ⟨x.reported, .refl⟩
  | cons n rest ih =>
    obtain ⟨reported, hfirst⟩ := x.steps_stepRun n
    obtain ⟨reported', hrest⟩ := ih { x with shared := x.shared.stepRun n, reported }
    exact ⟨reported', hfirst.trans hrest⟩

/-- The watched loop is that of the manager of a node. -/
structure Watches (x : Watched) (node : Node) (s : Shared) : Prop where
  loop : node.manager.loop = some x.loop
  shared : x.shared = s
  free : x.hand = none

/-- The node of the watched loop lets its loops do what is due. -/
theorem Minded.steps_node {x : Watched} (h : x.Minded) (registry : Registry) {node : Node}
    {s : Shared} (hwatch : x.Watches node s) :
    ∃ y, Steps x y ∧ y.Watches (node.step registry s).1 (node.step registry s).2 := by
  obtain ⟨hloop, rfl, hfree⟩ := hwatch
  obtain ⟨claims, hown⟩ := x.steps_loop registry hfree
  have hspare := (h.steps hown).steps_deeds rfl (node.spare.deeds_step registry _)
  unfold Node.step
  rw [hloop]
  exact ⟨_, hown.trans hspare, rfl, rfl, rfl⟩

/-- All nodes let their loops do what is due. -/
theorem Minded.steps_stepNodes {x : Watched} (h : x.Minded) (registry : Registry)
    {nodes : List Node} {i : Nat} {node : Node} (hi : nodes[i]? = some node) {s : Shared}
    (hwatch : x.Watches node s) :
    ∃ y node', Steps x y ∧ (Cluster.stepNodes registry nodes s).1[i]? = some node'
      ∧ y.Watches node' (Cluster.stepNodes registry nodes s).2 := by
  induction nodes generalizing x i s with
  | nil => cases hi
  | cons first nodes ih =>
    cases i with
    | zero =>
      obtain rfl := Option.some.inj hi
      obtain ⟨y, hown, hloop, hshared, hfree⟩ := h.steps_node registry hwatch
      have hothers := Cluster.deeds_stepNodes registry nodes (first.step registry s).2
      rw [← hshared] at hothers
      have hrest := (h.steps hown).steps_deeds hfree hothers
      refine ⟨_, _, hown.trans hrest, rfl, hloop, ?_, hfree⟩
      dsimp only
      rw [hshared]
      rfl
    | succ i =>
      obtain ⟨hloop, rfl, hfree⟩ := hwatch
      have hfirst := h.steps_deeds hfree (first.deeds_step registry x.shared)
      obtain ⟨y, node', hrest, hi', hwatch⟩ := ih (h.steps hfirst) hi ⟨hloop, rfl, hfree⟩
      exact ⟨y, node', hfirst.trans hrest, hi', hwatch⟩

/-- **Whatever is due in a cluster is a course of steps** of the loop that is watched. -/
theorem Minded.steps_settle {x : Watched} (h : x.Minded) {c : Cluster} {i : Nat} {node : Node}
    (hi : c.nodes[i]? = some node) (hwatch : x.Watches node c.shared) :
    ∃ y node', Steps x y ∧ c.settle.nodes[i]? = some node' ∧ y.Watches node' c.settle.shared := by
  obtain ⟨y, node', hloops, hi', hloop, hshared, hfree⟩ :=
    h.steps_stepNodes c.registry hi hwatch
  obtain ⟨reported, hruns⟩ := y.steps_stepRuns
  let z : Watched := { y with shared := y.shared.stepRuns, reported }
  have hsettle : Step z { z with loop := z.loop.settle z.shared } := .settle
  have hend : z.shared = c.settle.shared := by
    show y.shared.stepRuns = _
    rw [hshared]
    rfl
  refine ⟨_, node'.settle z.shared, (hloops.trans hruns).tail hsettle, ?_, ?_, hend, hfree⟩
  · rw [hend]
    show ((Cluster.stepNodes c.registry c.nodes c.shared).1.map fun n =>
      n.settle c.settle.shared)[i]? = _
    rw [List.getElem?_map, hi']
    rfl
  · show node'.manager.loop.map (fun l => l.settle z.shared) = _
    rw [hloop]
    rfl

end Watched

end TaskCluster
