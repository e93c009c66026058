import Mathlib
import TaskCluster.Job.Execution

/-!
# When a job ends in a step

A step of an execution is a burst: the job goes on until it waits or ends, under signals that stay
as they are meanwhile. `Work.Ends` says demand by demand that the job ends in a burst, and a burst
comes to an end of the job exactly then (`Work.burst_eq_ended_iff`). So a step ends the execution
exactly if the job ends in it (`Execution.Ends`), and then it writes the lines of the burst and
makes one report behind them (`Execution.step_of_ends`). Every other step writes lines alone
(`Execution.step_of_not_ends`).

`Execution.follow` is an execution under any schedule of steps and signals, due or not. It has ended
exactly if the job has ended in one of the steps (`Execution.ended_iff`).
-/

namespace TaskCluster

/-- What a burst makes of a demand. -/
def Demand.met (id : String) (s : Signals) : Demand → List String × Halt
  | .write line rest => (line :: (rest.burst id s).1, (rest.burst id s).2)
  | .goOn rest => rest.burst id s
  | .pause d rest =>
    if s.interrupted then ([], .ended (.failed .interrupted))
    else if d.nanos = 0 then rest.burst id s
    else ([], .pausing d rest)
  | .block d rest => if d.nanos = 0 then rest.burst id s else ([], .blocking d rest)
  | .awaitInterrupt rest => if s.interrupted then rest.burst id s else ([], .awaiting rest)
  | .finish e => ([], .ended e)

theorem Work.burst_eq (id : String) (s : Signals) (w : Work) :
    w.burst id s = (w.next id s).met id s := by
  rw [burst]
  split <;> simp_all [Demand.met]

/-! ### The end of a burst -/

/-- The work ends before it waits for any time, behind some lines. -/
inductive Work.Ends (id : String) (s : Signals) : Work → List String → Ending → Prop where
  | finish {w : Work} {e : Ending} (h : w.next id s = .finish e) : Ends id s w [] e
  | write {w rest : Work} {line : String} {lines : List String} {e : Ending}
    (h : w.next id s = .write line rest) (later : Ends id s rest lines e) :
    Ends id s w (line :: lines) e
  | goOn {w rest : Work} {lines : List String} {e : Ending} (h : w.next id s = .goOn rest)
    (later : Ends id s rest lines e) : Ends id s w lines e
  | stop {w rest : Work} {d : Duration} (h : w.next id s = .pause d rest)
    (signal : s.interrupted = true) : Ends id s w [] (.failed .interrupted)
  | pause {w rest : Work} {d : Duration} {lines : List String} {e : Ending}
    (h : w.next id s = .pause d rest) (quiet : s.interrupted = false) (instant : d.nanos = 0)
    (later : Ends id s rest lines e) : Ends id s w lines e
  | block {w rest : Work} {d : Duration} {lines : List String} {e : Ending}
    (h : w.next id s = .block d rest) (instant : d.nanos = 0) (later : Ends id s rest lines e) :
    Ends id s w lines e
  | await {w rest : Work} {lines : List String} {e : Ending}
    (h : w.next id s = .awaitInterrupt rest) (signal : s.interrupted = true)
    (later : Ends id s rest lines e) : Ends id s w lines e

namespace Work

variable {id : String} {s : Signals} {w : Work} {lines : List String} {e : Ending}

theorem Ends.burst_eq (h : w.Ends id s lines e) : w.burst id s = (lines, .ended e) := by
  induction h with
  | finish h => rw [Work.burst_eq, h, Demand.met]
  | write h _ ih => rw [Work.burst_eq, h, Demand.met, ih]
  | goOn h _ ih => rw [Work.burst_eq, h, Demand.met, ih]
  | stop h signal => rw [Work.burst_eq, h, Demand.met, if_pos signal]
  | pause h quiet instant _ ih =>
    rw [Work.burst_eq, h, Demand.met, if_neg (by simp [quiet]), if_pos instant, ih]
  | block h instant _ ih => rw [Work.burst_eq, h, Demand.met, if_pos instant, ih]
  | await h signal _ ih => rw [Work.burst_eq, h, Demand.met, if_pos signal, ih]

theorem ends_of_burst_eq (h : w.burst id s = (lines, .ended e)) : w.Ends id s lines e := by
  induction w using Work.burst.induct id s generalizing lines with
  | case1 w line rest hnext ih =>
    rw [Work.burst_eq, hnext, Demand.met] at h
    obtain ⟨rfl, hend⟩ := Prod.mk.inj h
    exact .write hnext (ih (Prod.ext rfl hend))
  | case2 w rest hnext ih =>
    rw [Work.burst_eq, hnext, Demand.met] at h
    exact .goOn hnext (ih h)
  | case3 w d rest hnext hint =>
    rw [Work.burst_eq, hnext, Demand.met, if_pos hint] at h
    obtain ⟨rfl, hend⟩ := Prod.mk.inj h
    obtain rfl := Halt.ended.inj hend
    exact .stop hnext hint
  | case4 w d rest hnext hint hd ih =>
    rw [Work.burst_eq, hnext, Demand.met, if_neg hint, if_pos hd] at h
    exact .pause hnext (Bool.eq_false_of_not_eq_true hint) hd (ih h)
  | case5 w d rest hnext hint hd =>
    rw [Work.burst_eq, hnext, Demand.met, if_neg hint, if_neg hd] at h
    cases h
  | case6 w d rest hnext hd ih =>
    rw [Work.burst_eq, hnext, Demand.met, if_pos hd] at h
    exact .block hnext hd (ih h)
  | case7 w d rest hnext hd =>
    rw [Work.burst_eq, hnext, Demand.met, if_neg hd] at h
    cases h
  | case8 w rest hnext hint ih =>
    rw [Work.burst_eq, hnext, Demand.met, if_pos hint] at h
    exact .await hnext hint (ih h)
  | case9 w rest hnext hint =>
    rw [Work.burst_eq, hnext, Demand.met, if_neg hint] at h
    cases h
  | case10 w e' hnext =>
    rw [Work.burst_eq, hnext, Demand.met] at h
    obtain ⟨rfl, hend⟩ := Prod.mk.inj h
    obtain rfl := Halt.ended.inj hend
    exact .finish hnext

/-- **A burst comes to an end of the job exactly if the job ends before it waits.** -/
theorem burst_eq_ended_iff : w.burst id s = (lines, .ended e) ↔ w.Ends id s lines e :=
  ⟨ends_of_burst_eq, Ends.burst_eq⟩

end Work

/-! ### Steps -/

namespace Execution

/-- The work that the execution goes on with in a step at a time. -/
inductive Resumes (x : Execution) (time : Nat) (work : Work) : Prop where
  | ready (h : x.phase = .ready work)
  | pausing (till : Nat) (h : x.phase = .pausing till work) (quiet : x.signals.interrupted = false)
    (late : till ≤ time)
  | blocking (till : Nat) (h : x.phase = .blocking till work) (late : till ≤ time)
  | awaiting (h : x.phase = .awaiting work) (signal : x.signals.interrupted = true)

/-- The job ends in a step at a time, behind some lines. -/
inductive Ends (x : Execution) (time : Nat) : List String → Ending → Prop where
  | run {work : Work} {lines : List String} {e : Ending} (resumes : x.Resumes time work)
    (ends : work.Ends x.task x.signals lines e) : Ends x time lines e
  | stop {till : Nat} {work : Work} (h : x.phase = .pausing till work)
    (signal : x.signals.interrupted = true) : Ends x time [] (.failed .interrupted)

variable {x : Execution} {time : Nat} {work : Work} {lines : List String} {e : Ending}

theorem Resumes.step_eq (h : x.Resumes time work) : x.step time = x.run time work := by
  cases h with
  | ready h => rw [step, h]
  | pausing till h quiet late => simp [step, h, quiet, late]
  | blocking till h late => simp [step, h, late]
  | awaiting h signal => simp [step, h, signal]

/-- A step runs a burst, or an interrupt ends a pause in it, or it does nothing. -/
theorem step_cases (x : Execution) (time : Nat) :
    (∃ work, x.Resumes time work) ∨ x.Ends time [] (.failed .interrupted)
      ∨ x.step time = (x, []) := by
  cases hphase : x.phase with
  | ready work => exact .inl ⟨work, .ready hphase⟩
  | pausing till work =>
    cases hint : x.signals.interrupted with
    | true => exact .inr (.inl (.stop hphase hint))
    | false =>
      by_cases hlate : till ≤ time
      · exact .inl ⟨work, .pausing till hphase hint hlate⟩
      · exact .inr (.inr (by simp [step, hphase, hint, hlate]))
  | blocking till work =>
    by_cases hlate : till ≤ time
    · exact .inl ⟨work, .blocking till hphase hlate⟩
    · exact .inr (.inr (by simp [step, hphase, hlate]))
  | awaiting work =>
    cases hint : x.signals.interrupted with
    | true => exact .inl ⟨work, .awaiting hphase hint⟩
    | false => exact .inr (.inr (by simp [step, hphase, hint]))
  | ended => exact .inr (.inr (by simp [step, hphase]))

theorem Resumes.isAlive (h : x.Resumes time work) : x.isAlive = true := by
  cases h with
  | ready h | pausing _ h | blocking _ h | awaiting h => simp [Execution.isAlive, h]

theorem Ends.isAlive (h : x.Ends time lines e) : x.isAlive = true := by
  cases h with
  | run resumes => exact resumes.isAlive
  | stop h => simp [Execution.isAlive, h]

/-- The end of the job ends the execution, with one report behind the lines. -/
theorem step_of_ends (h : x.Ends time lines e) :
    x.step time = ((x.finish e).1, lines.map .log ++ [(x.finish e).2]) := by
  cases h with
  | run resumes ends => rw [resumes.step_eq, Execution.run, ends.burst_eq]
  | stop h signal => simp [step, h, signal]

/-- Where the job does not end, the execution goes on, and it has written lines at most. -/
theorem step_of_not_ends (h : ∀ lines e, ¬ x.Ends time lines e) :
    (x.step time).1.isAlive = x.isAlive
      ∧ ∃ lines : List String, (x.step time).2 = lines.map .log := by
  rcases x.step_cases time with ⟨work, hresumes⟩ | hends | hsame
  · rw [hresumes.step_eq, hresumes.isAlive, Execution.run]
    cases hburst : work.burst x.task x.signals with
    | mk lines halt =>
      cases halt with
      | ended e => exact absurd (.run hresumes (Work.burst_eq_ended_iff.mp hburst)) (h lines e)
      | _ => exact ⟨rfl, lines, rfl⟩
  · exact absurd hends (h _ _)
  · rw [hsame]
    exact ⟨rfl, [], rfl⟩

theorem isAlive_finish (x : Execution) (e : Ending) : (x.finish e).1.isAlive = false := rfl

/-- An execution that has ended makes no steps. -/
theorem step_of_not_isAlive (h : x.isAlive = false) (time : Nat) : x.step time = (x, []) := by
  rcases x.step_cases time with ⟨work, hresumes⟩ | hends | hsame
  · rw [hresumes.isAlive] at h
    cases h
  · rw [hends.isAlive] at h
    cases h
  · exact hsame

/-! ### Schedules -/

/-- What happens to an execution: a signal comes, or it makes the step that is due, if one is. -/
inductive Event where
  | signal (signal : Signal)
  | step (time : Nat)
deriving DecidableEq, Repr

/-- What an event makes of the execution, with the effects in order. -/
def handle (x : Execution) : Event → Execution × List Effect
  | .signal signal => (x.receive signal, [])
  | .step time => x.step time

/-- The execution under a schedule of events, with the effects in order. -/
def follow : List Event → Execution → Execution × List Effect
  | [], x => (x, [])
  | event :: events, x =>
    let made := x.handle event
    let later := follow events made.1
    (later.1, made.2 ++ later.2)

/-- The job ends in an event: a step. -/
inductive EndsIn (x : Execution) : Event → List String → Ending → Prop where
  | step {time : Nat} {lines : List String} {e : Ending} (ends : x.Ends time lines e) :
    EndsIn x (.step time) lines e

variable {event : Event} {events before : List Event}

theorem isAlive_receive (x : Execution) (signal : Signal) :
    (x.receive signal).isAlive = x.isAlive := by
  cases signal <;> rfl

theorem handle_of_endsIn (h : x.EndsIn event lines e) :
    x.handle event = ((x.finish e).1, lines.map .log ++ [(x.finish e).2]) := by
  obtain ⟨ends⟩ := h
  exact step_of_ends ends

theorem handle_of_not_endsIn (h : ∀ lines e, ¬ x.EndsIn event lines e) :
    (x.handle event).1.isAlive = x.isAlive
      ∧ ∃ lines : List String, (x.handle event).2 = lines.map .log := by
  cases event with
  | signal signal => exact ⟨x.isAlive_receive signal, [], rfl⟩
  | step time => exact step_of_not_ends fun lines e ends => h lines e ⟨ends⟩

/-- Nothing happens to an execution that has ended. -/
theorem follow_of_not_isAlive (h : x.isAlive = false) (events : List Event) :
    (x.follow events).1.isAlive = false ∧ (x.follow events).2 = [] := by
  induction events generalizing x with
  | nil => exact ⟨h, rfl⟩
  | cons event events ih =>
    have hmade : (x.handle event).1.isAlive = false ∧ (x.handle event).2 = [] := by
      cases event with
      | signal signal => exact ⟨(x.isAlive_receive signal).trans h, rfl⟩
      | step time =>
        have hsame : x.handle (.step time) = (x, []) := step_of_not_isAlive h time
        rw [hsame]
        exact ⟨h, rfl⟩
    obtain ⟨hended, hnone⟩ := ih hmade.1
    exact ⟨hended, by rw [follow, hmade.2, hnone, List.nil_append]⟩

theorem follow_append (x : Execution) (before after : List Event) :
    x.follow (before ++ after)
      = (((x.follow before).1.follow after).1,
        (x.follow before).2 ++ ((x.follow before).1.follow after).2) := by
  induction before generalizing x with
  | nil => rfl
  | cons event before ih => rw [List.cons_append, follow, ih, follow, List.append_assoc]

/-- The schedule up to the event in which the job ends. -/
theorem follow_of_endsIn (h : (x.follow before).1.EndsIn event lines e) (after : List Event) :
    (x.follow (before ++ event :: after)).1.isAlive = false
      ∧ (x.follow (before ++ event :: after)).2
        = (x.follow before).2 ++ (lines.map .log ++ [((x.follow before).1.finish e).2]) := by
  have hover := follow_of_not_isAlive ((x.follow before).1.isAlive_finish e) after
  rw [follow_append, follow, handle_of_endsIn h]
  exact ⟨hover.1, by rw [hover.2, List.append_nil]⟩

/-- **An execution under a schedule.** It writes lines and goes on until an event in which the job
ends. -/
theorem follow_cases (halive : x.isAlive = true) (events : List Event) :
    ((x.follow events).1.isAlive = true
      ∧ ∃ lines : List String, (x.follow events).2 = lines.map .log)
    ∨ ∃ (before : List Event) (event : Event) (after : List Event) (earlier lines : List String)
        (e : Ending), events = before ++ event :: after
      ∧ (x.follow before).2 = earlier.map .log
      ∧ (x.follow before).1.EndsIn event lines e := by
  induction events generalizing x with
  | nil => exact .inl ⟨halive, [], rfl⟩
  | cons event events ih =>
    by_cases hends : ∃ lines e, x.EndsIn event lines e
    · obtain ⟨lines, e, hends⟩ := hends
      exact .inr ⟨[], event, events, [], lines, e, rfl, rfl, hends⟩
    · obtain ⟨hsame, first, hfirst⟩ :=
        handle_of_not_endsIn fun lines e h => hends ⟨lines, e, h⟩
      rcases ih (hsame.trans halive) with ⟨hgoes, later, hlater⟩ | hover
      · refine .inl ⟨hgoes, first ++ later, ?_⟩
        rw [follow, hfirst, hlater, List.map_append]
      · obtain ⟨before, last, after, earlier, lines, e, rfl, hearlier, hends⟩ := hover
        refine .inr ⟨event :: before, last, after, first ++ earlier, lines, e, rfl, ?_, hends⟩
        rw [follow, hfirst, hearlier, List.map_append]

/-- The execution has ended exactly if the job has ended in one of the events. -/
theorem ended_iff (halive : x.isAlive = true) (events : List Event) :
    (x.follow events).1.isAlive = false ↔ ∃ before event after lines e,
      events = before ++ event :: after ∧ (x.follow before).1.EndsIn event lines e := by
  constructor
  · intro hended
    rcases x.follow_cases halive events with ⟨hgoes, -⟩ | hover
    · rw [hgoes] at hended
      cases hended
    · obtain ⟨before, event, after, -, lines, e, hsplit, -, hends⟩ := hover
      exact ⟨before, event, after, lines, e, hsplit, hends⟩
  · intro hends
    obtain ⟨before, event, after, lines, e, rfl, hends⟩ := hends
    exact (follow_of_endsIn hends after).1

end Execution

end TaskCluster
