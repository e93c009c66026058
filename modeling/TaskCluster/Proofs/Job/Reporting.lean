import Mathlib
import TaskCluster.Proofs.Job.Burst
import TaskCluster.Proofs.Record.LogLines

/-!
# One report for an execution, and the right one

The program makes the steps of an execution in bursts: a job runs until it waits, and when it ends
its report is made at once. Under any schedule of steps and signals it has reported exactly if its
job has ended in one of the steps (`Execution.reports_follow`).

The rest allows for more. Here an execution takes smaller steps (`Attempt.Step`). A job makes one
demand at a time, signals come between any two of them and also between the end of the job and its
report, a sleep ends whenever it likes, and a callback may panic, on a line as on the report. Every
step of the program is a trace of such steps (`Attempt.trace_step`), and so is a whole schedule
(`Attempt.trace_follow`).

Whatever the job is and whenever the signals come, a trace writes lines and nothing else until the
job has returned, and then one report, for the end of the job and the signals at that moment.
-/

namespace TaskCluster

/-- How far an execution is. A callback may panic on the report, and the execution then ends
abnormally. -/
inductive Stage where
  | atWork
  /-- The job has returned, and its end is not reported yet. -/
  | returned (e : Ending)
  | over (abnormally : Bool)
deriving DecidableEq, Repr

def Stage.isOver : Stage → Bool
  | .over _ => true
  | _ => false

/-- An execution and how far it is. -/
structure Attempt where
  execution : Execution
  stage : Stage
deriving DecidableEq, Repr

namespace Execution

/-- An execution as the program has it: the end of its job is reported at once. -/
def attempt (x : Execution) : Attempt := ⟨x, if x.isAlive then .atWork else .over false⟩

/-- The job is ready, and makes a demand. -/
def Demands (x : Execution) (demand : Demand) : Prop :=
  ∃ work, x.phase = .ready work ∧ work.next x.task x.signals = demand

/-- The job waits, and may go on with some work. -/
inductive MayWake (x : Execution) (work : Work) : Prop where
  | pausing (till : Nat) (h : x.phase = .pausing till work)
  | blocking (till : Nat) (h : x.phase = .blocking till work)
  | awaiting (h : x.phase = .awaiting work) (signal : x.signals.interrupted = true)

end Execution

/-! ### The report that is due -/

/-- The report that is due when a job ends under some signals. -/
structure Verdict (e : Ending) (s : Signals) (status : Status) (message : Option String) : Prop where
  error : status = .finishedError ↔
    ∃ text, e = .failed (.missingResource text) ∨ e = .failed (.permanent text)
  canceled : status = .canceled ↔ e = .completed ∧ s.canceled = true ∧ s.interrupted = false
  ok : status = .finishedOk ↔ e = .completed ∧ s.canceled = false ∧ s.interrupted = false
  /-- In all other cases the task waits for another run. -/
  failover : status = .finishedError ∨ status = .canceled ∨ status = .finishedOk
    ∨ status = .failover
  message : message = some interruptedMessage ↔
    e = .failed .interrupted ∨ e = .completed ∧ s.interrupted = true

/-- No other line is the one about an interrupted job, whatever the text of an error says. -/
theorem verdict_report (e : Ending) (s : Signals) : Verdict e s (e.report s).1 (e.report s).2 := by
  have herror (beginning text : String) (h : ¬ beginning.toList <+: interruptedMessage.toList) :
      some (beginning ++ text) ≠ some interruptedMessage := by
    rw [ne_eq, Option.some_inj]
    exact Log.append_ne_of_not_prefix h text
  cases e with
  | completed =>
    obtain ⟨canceled, interrupted⟩ := s
    cases canceled <;> cases interrupted <;> constructor <;> simp [Ending.report]
  | panicked =>
    have hline : some panicMessage ≠ some interruptedMessage := by decide
    constructor <;> simp [Ending.report, hline]
  | failed error =>
    cases error with
    | interrupted => constructor <;> simp [Ending.report]
    | missingResource text =>
      have hline := herror "ERROR: Task finished due missing resource: " text (by decide)
      constructor <;> simp [Ending.report, hline]
    | transient text =>
      have hline := herror "ERROR: Task execution interrupted due " text (by decide)
      constructor <;> simp [Ending.report, hline]
    | permanent text =>
      have hline := herror "ERROR: Task finished due error: " text (by decide)
      constructor <;> simp [Ending.report, hline]

namespace Attempt

/-- A step of an execution, with its effects. -/
inductive Step : Attempt → List Effect → Attempt → Prop where
  | signal (x : Execution) (stage : Stage) (signal : Signal) :
    Step ⟨x, stage⟩ [] ⟨x.receive signal, stage⟩
  | write {x : Execution} {line : String} {rest : Work} (h : x.Demands (.write line rest)) :
    Step ⟨x, .atWork⟩ [.log line] ⟨{ x with phase := .ready rest }, .atWork⟩
  /-- The callback panics on a line, and the job with it. -/
  | writePanics {x : Execution} {line : String} {rest : Work} (h : x.Demands (.write line rest)) :
    Step ⟨x, .atWork⟩ [.log line] ⟨x, .returned .panicked⟩
  | goOn {x : Execution} {rest : Work} (h : x.Demands (.goOn rest)) :
    Step ⟨x, .atWork⟩ [] ⟨{ x with phase := .ready rest }, .atWork⟩
  | pause {x : Execution} {d : Duration} {rest : Work} (h : x.Demands (.pause d rest))
    (till : Nat) : Step ⟨x, .atWork⟩ [] ⟨{ x with phase := .pausing till rest }, .atWork⟩
  | block {x : Execution} {d : Duration} {rest : Work} (h : x.Demands (.block d rest))
    (till : Nat) : Step ⟨x, .atWork⟩ [] ⟨{ x with phase := .blocking till rest }, .atWork⟩
  | await {x : Execution} {rest : Work} (h : x.Demands (.awaitInterrupt rest)) :
    Step ⟨x, .atWork⟩ [] ⟨{ x with phase := .awaiting rest }, .atWork⟩
  | wake {x : Execution} {rest : Work} (h : x.MayWake rest) :
    Step ⟨x, .atWork⟩ [] ⟨{ x with phase := .ready rest }, .atWork⟩
  /-- An interrupt ends a pause, and the job with it. -/
  | stop {x : Execution} {till : Nat} {rest : Work} (h : x.phase = .pausing till rest)
    (signal : x.signals.interrupted = true) :
    Step ⟨x, .atWork⟩ [] ⟨x, .returned (.failed .interrupted)⟩
  | finish {x : Execution} {e : Ending} (h : x.Demands (.finish e)) :
    Step ⟨x, .atWork⟩ [] ⟨x, .returned e⟩
  | report (x : Execution) (e : Ending) (abnormally : Bool) :
    Step ⟨x, .returned e⟩ [(x.finish e).2] ⟨(x.finish e).1, .over abnormally⟩

/-- Some steps, one after the other, with their effects in order. -/
inductive Trace (a : Attempt) : List Effect → Attempt → Prop where
  | refl : Trace a [] a
  | tail {b c : Attempt} {effects more : List Effect} (trace : Trace a effects b)
    (step : Step b more c) : Trace a (effects ++ more) c

variable {a b c : Attempt} {effects more : List Effect}

theorem Trace.trans (h : Trace a effects b) (h' : Trace b more c) :
    Trace a (effects ++ more) c := by
  induction h' with
  | refl => simpa using h
  | tail _ step ih =>
    rw [← List.append_assoc]
    exact ih.tail step

theorem Step.trace (h : Step a effects b) : Trace a effects b := by
  simpa using Trace.refl.tail h

/-- A step that has no effect, before a trace. -/
theorem Step.before (h : Step a [] b) (h' : Trace b effects c) : Trace a effects c :=
  h.trace.trans h'

end Attempt

/-! ### The steps of the program -/

namespace Attempt

section Program

variable {x : Execution} {time : Nat} {work rest : Work}

theorem run_of_burst_eq (h : work.burst x.task x.signals = rest.burst x.task x.signals) :
    x.run time work = x.run time rest := by
  unfold Execution.run
  rw [h]

theorem run_of_write {line : String} (h : work.next x.task x.signals = .write line rest) :
    x.run time work = ((x.run time rest).1, .log line :: (x.run time rest).2) := by
  unfold Execution.run
  rw [work.burst_eq, h, Demand.met]
  rcases rest.burst x.task x.signals with ⟨lines, halt⟩
  cases halt <;> rfl

/-- The program reports as soon as the job has returned. -/
theorem trace_finish (x : Execution) (e : Ending) :
    Trace ⟨x, .returned e⟩ [(x.finish e).2] (x.finish e).1.attempt := (Step.report x e false).trace

/-- A burst of the program is a trace. -/
theorem trace_run (x : Execution) (time : Nat) (work : Work) :
    Trace ⟨{ x with phase := .ready work }, .atWork⟩ (x.run time work).2
      (x.run time work).1.attempt := by
  induction work using Work.burst.induct x.task x.signals with
  | case1 work line rest hnext ih =>
    have hdemand : Execution.Demands { x with phase := .ready work } _ := ⟨work, rfl, hnext⟩
    rw [run_of_write hnext]
    exact (Step.write hdemand).trace.trans ih
  | case2 work rest hnext ih =>
    have hdemand : Execution.Demands { x with phase := .ready work } _ := ⟨work, rfl, hnext⟩
    have hburst : work.burst x.task x.signals = rest.burst x.task x.signals := by
      simp [work.burst_eq, hnext, Demand.met]
    rw [run_of_burst_eq hburst]
    exact (Step.goOn hdemand).before ih
  | case3 work d rest hnext hint =>
    have hdemand : Execution.Demands { x with phase := .ready work } _ := ⟨work, rfl, hnext⟩
    have hburst : work.burst x.task x.signals = ([], .ended (.failed .interrupted)) := by
      simp [work.burst_eq, hnext, Demand.met, hint]
    have hstop : Step ⟨{ x with phase := .pausing time rest }, .atWork⟩ [] _ := .stop rfl hint
    unfold Execution.run
    rw [hburst]
    exact (Step.pause hdemand time).before (hstop.before (trace_finish _ _))
  | case4 work d rest hnext hint hd ih =>
    have hdemand : Execution.Demands { x with phase := .ready work } _ := ⟨work, rfl, hnext⟩
    have hburst : work.burst x.task x.signals = rest.burst x.task x.signals := by
      simp [work.burst_eq, hnext, Demand.met, hint, hd]
    rw [run_of_burst_eq hburst]
    refine (Step.pause hdemand time).before ?_
    exact (Step.wake (.pausing time rfl)).before ih
  | case5 work d rest hnext hint hd =>
    have hdemand : Execution.Demands { x with phase := .ready work } _ := ⟨work, rfl, hnext⟩
    have hburst : work.burst x.task x.signals = ([], .pausing d rest) := by
      simp [work.burst_eq, hnext, Demand.met, hint, hd]
    unfold Execution.run
    rw [hburst]
    exact (Step.pause hdemand (time + d.timerMillis)).trace
  | case6 work d rest hnext hd ih =>
    have hdemand : Execution.Demands { x with phase := .ready work } _ := ⟨work, rfl, hnext⟩
    have hburst : work.burst x.task x.signals = rest.burst x.task x.signals := by
      simp [work.burst_eq, hnext, Demand.met, hd]
    rw [run_of_burst_eq hburst]
    refine (Step.block hdemand time).before ?_
    exact (Step.wake (.blocking time rfl)).before ih
  | case7 work d rest hnext hd =>
    have hdemand : Execution.Demands { x with phase := .ready work } _ := ⟨work, rfl, hnext⟩
    have hburst : work.burst x.task x.signals = ([], .blocking d rest) := by
      simp [work.burst_eq, hnext, Demand.met, hd]
    unfold Execution.run
    rw [hburst]
    exact (Step.block hdemand (time + d.timerMillis)).trace
  | case8 work rest hnext hint ih =>
    have hdemand : Execution.Demands { x with phase := .ready work } _ := ⟨work, rfl, hnext⟩
    have hburst : work.burst x.task x.signals = rest.burst x.task x.signals := by
      simp [work.burst_eq, hnext, Demand.met, hint]
    have hwake : Execution.MayWake { x with phase := .awaiting rest } rest := .awaiting rfl hint
    rw [run_of_burst_eq hburst]
    exact (Step.await hdemand).before ((Step.wake hwake).before ih)
  | case9 work rest hnext hint =>
    have hdemand : Execution.Demands { x with phase := .ready work } _ := ⟨work, rfl, hnext⟩
    have hburst : work.burst x.task x.signals = ([], .awaiting rest) := by
      simp [work.burst_eq, hnext, Demand.met, hint]
    unfold Execution.run
    rw [hburst]
    exact (Step.await hdemand).trace
  | case10 work e hnext =>
    have hdemand : Execution.Demands { x with phase := .ready work } _ := ⟨work, rfl, hnext⟩
    have hburst : work.burst x.task x.signals = ([], .ended e) := by
      simp [work.burst_eq, hnext, Demand.met]
    unfold Execution.run
    rw [hburst]
    exact (Step.finish hdemand).before (trace_finish { x with phase := .ready work } e)

/-- An execution that goes on with some work is ready for it. -/
theorem trace_resumes (h : x.Resumes time work) :
    Trace ⟨x, .atWork⟩ [] ⟨{ x with phase := .ready work }, .atWork⟩ := by
  cases h with
  | ready h =>
    rw [← h]
    exact .refl
  | pausing till h => exact (Step.wake (.pausing till h)).trace
  | blocking till h => exact (Step.wake (.blocking till h)).trace
  | awaiting h signal => exact (Step.wake (.awaiting h signal)).trace

theorem attempt_of_isAlive (h : x.isAlive = true) : x.attempt = ⟨x, .atWork⟩ := by
  rw [Execution.attempt, if_pos h]

/-- **A step of the program is a trace.** -/
theorem trace_step (x : Execution) (time : Nat) :
    Trace x.attempt (x.step time).2 (x.step time).1.attempt := by
  rcases x.step_cases time with ⟨work, hresumes⟩ | hends | hsame
  · rw [attempt_of_isAlive hresumes.isAlive, hresumes.step_eq]
    exact (trace_resumes hresumes).trans (trace_run x time work)
  · rw [attempt_of_isAlive hends.isAlive, Execution.step_of_ends hends]
    cases hends with
    | @run work _ _ resumes ends =>
      have hrun := trace_run x time work
      rw [Execution.run, ends.burst_eq] at hrun
      exact (trace_resumes resumes).trans hrun
    | stop hphase signal => exact (Step.stop hphase signal).before (trace_finish x _)
  · rw [hsame]
    exact .refl

/-- A schedule of steps and signals is a trace. -/
theorem trace_follow (x : Execution) (events : List Execution.Event) :
    Trace x.attempt (x.follow events).2 (x.follow events).1.attempt := by
  induction events generalizing x with
  | nil => exact .refl
  | cons event events ih =>
    have hevent : Trace x.attempt (x.handle event).2 (x.handle event).1.attempt := by
      cases event with
      | signal signal =>
        have hsame : (x.receive signal).attempt = ⟨x.receive signal, x.attempt.stage⟩ := by
          rw [Execution.attempt, x.isAlive_receive, Execution.attempt]
        show Trace x.attempt [] (x.receive signal).attempt
        rw [hsame]
        exact (Step.signal x _ signal).trace
      | step time => exact trace_step x time
    exact hevent.trans (ih _)

end Program

/-! ### Traces of an execution -/

/-- What a trace has done so far: it has written lines, and it has made a report if it is over. -/
structure Reported (start : Attempt) (effects : List Effect) (b : Attempt) : Prop where
  before : b.stage.isOver = false → ∃ lines : List String, effects = lines.map .log
  after : b.stage.isOver = true → ∃ (lines : List String) (x : Execution) (e : Ending)
    (status : Status) (message : Option String),
    Trace start (lines.map .log) ⟨x, .returned e⟩
      ∧ effects = lines.map .log ++ [.report status message] ∧ Verdict e x.signals status message

/-- A step without effect that is over no sooner than before. -/
theorem Reported.silent {start : Attempt} (h : Reported start effects b)
    (hover : c.stage.isOver = b.stage.isOver) : Reported start (effects ++ []) c := by
  rw [List.append_nil]
  exact ⟨fun hc => h.before (hover ▸ hc), fun hc => h.after (hover ▸ hc)⟩

theorem Reported.line {start : Attempt} (h : Reported start effects b) {line : String}
    (hb : b.stage.isOver = false) (hc : c.stage.isOver = false) :
    Reported start (effects ++ [.log line]) c := by
  obtain ⟨lines, rfl⟩ := h.before hb
  refine ⟨fun _ => ⟨lines ++ [line], by simp⟩, fun hover => ?_⟩
  rw [hc] at hover
  cases hover

theorem reported {start : Attempt} (hstart : start.stage.isOver = false)
    (h : Trace start effects b) : Reported start effects b := by
  induction h with
  | refl =>
    refine ⟨fun _ => ⟨[], rfl⟩, fun hover => ?_⟩
    rw [hstart] at hover
    cases hover
  | tail trace step ih =>
    cases step with
    | write => exact ih.line rfl rfl
    | writePanics => exact ih.line rfl rfl
    | report x e abnormally =>
      obtain ⟨lines, rfl⟩ := ih.before rfl
      refine ⟨fun hover => (by cases hover), fun _ => ?_⟩
      exact ⟨lines, x, e, _, _, trace, rfl, verdict_report e x.signals⟩
    | _ => exact ih.silent rfl

/-- A job that has returned does nothing more, and its report can be made. -/
theorem due_of_returned {e : Ending} (h : b.stage = .returned e) :
    (∃ report c, Step b [report] c ∧ c.stage.isOver = true)
      ∧ ∀ more c, Step b more c → c.stage = b.stage ∨ c.stage.isOver = true := by
  obtain ⟨x, stage⟩ := b
  dsimp only at h
  subst h
  refine ⟨⟨_, _, .report x e false, rfl⟩, fun more c step => ?_⟩
  cases step with
  | report => exact Or.inr rfl
  | _ => exact Or.inl rfl

end Attempt

/-! ### Schedules of an execution -/

namespace Execution

/-- How an execution stands after a schedule of steps and signals. -/
inductive Reports (x : Execution) (events : List Event) : Prop where
  /-- It goes on, and has written lines at most. -/
  | going (lines : List String) (alive : (x.follow events).1.isAlive = true)
    (effects : (x.follow events).2 = lines.map .log)
  /-- Its job has ended in an event, and it has reported so behind all lines. -/
  | over (before : List Event) (event : Event) (after : List Event) (earlier lines : List String)
    (e : Ending) (status : Status) (message : Option String)
    (split : events = before ++ event :: after)
    (unreported : (x.follow before).2 = earlier.map .log)
    (ends : (x.follow before).1.EndsIn event lines e)
    (ended : (x.follow events).1.isAlive = false)
    (effects : (x.follow events).2 = (earlier ++ lines).map .log ++ [.report status message])
    (verdict : Verdict e (x.follow before).1.signals status message)

/-- **A schedule comes to one report, and to the right one.** -/
theorem reports_follow {x : Execution} (halive : x.isAlive = true) (events : List Event) :
    x.Reports events := by
  rcases follow_cases halive events with ⟨hgoes, lines, hlines⟩ | hover
  · exact .going lines hgoes hlines
  · obtain ⟨before, event, after, earlier, lines, e, rfl, hearlier, hends⟩ := hover
    obtain ⟨hended, heffects⟩ := follow_of_endsIn hends after
    refine .over before event after earlier lines e _ _ rfl hearlier hends hended ?_
      (verdict_report e _)
    rw [heffects, hearlier, List.map_append, List.append_assoc]
    rfl

end Execution

namespace Attempt

/-- **One report for an execution, and the right one.** The steps of the program are traces, and a
trace writes lines alone until the job has returned. From then on the report is all that is left to
do. It is made once, behind all lines, whether the callback panics on it or not, and it is the one
that is due for the end of the job under the signals at that moment. Under any schedule of steps and
signals the program follows such a trace, and it has made the report exactly if the job has ended in
one of the steps. -/
theorem reports_exactly_once (id : String) (work : Work) :
    (∀ (x : Execution) (time : Nat), Trace x.attempt (x.step time).2 (x.step time).1.attempt)
      ∧ (∀ effects b, Trace (Execution.spawn id work).attempt effects b →
        Reported (Execution.spawn id work).attempt effects b
          ∧ ∀ e, b.stage = .returned e → (∃ report c, Step b [report] c ∧ c.stage.isOver = true)
            ∧ ∀ more c, Step b more c → c.stage = b.stage ∨ c.stage.isOver = true)
      ∧ ∀ events, Trace (Execution.spawn id work).attempt
          ((Execution.spawn id work).follow events).2
          ((Execution.spawn id work).follow events).1.attempt
        ∧ (Execution.spawn id work).Reports events
        ∧ (((Execution.spawn id work).follow events).1.isAlive = false
          ↔ ∃ before event after lines e, events = before ++ event :: after
            ∧ ((Execution.spawn id work).follow before).1.EndsIn event lines e) := by
  have halive : (Execution.spawn id work).isAlive = true := rfl
  refine ⟨trace_step, ?_, ?_⟩
  · intro effects b h
    exact ⟨reported rfl h, fun e => due_of_returned⟩
  · intro events
    exact ⟨trace_follow _ events, Execution.reports_follow halive events,
      Execution.ended_iff halive events⟩

/-- A job that sleeps and then does what is left to do, but not if it was asked to cancel. -/
def watchful : Work :=
  .act (.log "a") (.act (.sleep ⟨1⟩)
    (.look .cancel (.script [.log "stopped"]) (.script [.finish (.failed (.permanent "late"))])))

/-- The job is asked to cancel while it sleeps, and sees that. On the trace the callback panics on
the report. In the program the job is over with its second step. -/
theorem reports_exactly_once_canceled :
    let start := Execution.spawn "t" watchful
    let effects : List Effect := [.log "a", .log "stopped", .report .canceled none]
    let events : List Execution.Event := [.step 0, .signal .cancel, .step 1]
    (∃ x, Trace start.attempt effects ⟨x, .over true⟩
        ∧ Reported start.attempt effects ⟨x, .over true⟩)
      ∧ (start.follow events).2 = effects ∧ (start.follow events).1.isAlive = false
      ∧ start.Reports events := by
  intro start effects events
  obtain ⟨-, hreported, hfollow⟩ := reports_exactly_once "t" watchful
  refine ⟨?_, by decide +kernel, by decide +kernel, (hfollow events).2.1⟩
  -- The trace, demand by demand.
  let ready (s : Signals) (work : Work) : Execution := ⟨"t", s, .ready work⟩
  let look : Work :=
    .look .cancel (.script [.log "stopped"]) (.script [.finish (.failed (.permanent "late"))])
  let asleep : Execution := ⟨"t", {}, .pausing 1 look⟩
  let canceled : Signals := ⟨true, false⟩
  have hwrite : Step start.attempt [.log "a"] ⟨ready {} (.act (.sleep ⟨1⟩) look), .atWork⟩ :=
    .write ⟨_, rfl, rfl⟩
  have hpause : Step ⟨ready {} (.act (.sleep ⟨1⟩) look), .atWork⟩ [] ⟨asleep, .atWork⟩ :=
    .pause ⟨_, rfl, rfl⟩ 1
  have hcancel : Step ⟨asleep, .atWork⟩ [] ⟨asleep.cancel, .atWork⟩ :=
    .signal asleep .atWork .cancel
  have hwake : Step ⟨asleep.cancel, .atWork⟩ [] ⟨ready canceled look, .atWork⟩ :=
    .wake (.pausing 1 rfl)
  have hlook : Step ⟨ready canceled look, .atWork⟩ []
      ⟨ready canceled (.script [.log "stopped"]), .atWork⟩ := .goOn ⟨_, rfl, rfl⟩
  have hstopped : Step ⟨ready canceled (.script [.log "stopped"]), .atWork⟩ [.log "stopped"]
      ⟨ready canceled .nil, .atWork⟩ := .write ⟨_, rfl, rfl⟩
  have hfinish : Step ⟨ready canceled .nil, .atWork⟩ []
      ⟨ready canceled .nil, .returned .completed⟩ := .finish ⟨_, rfl, rfl⟩
  have hreport : Step ⟨ready canceled .nil, .returned .completed⟩ [.report .canceled none]
      ⟨((ready canceled .nil).finish .completed).1, .over true⟩ :=
    .report (ready canceled .nil) .completed true
  have htrace : Trace start.attempt effects
      ⟨((ready canceled .nil).finish .completed).1, .over true⟩ :=
    hwrite.trace.trans (hpause.before (hcancel.before (hwake.before (hlook.before
      (hstopped.trace.trans (hfinish.before hreport.trace))))))
  exact ⟨_, htrace, (hreported effects _ htrace).1⟩

end Attempt

end TaskCluster
