import TaskCluster.Status
import TaskCluster.Time.Duration

/-!
# The work of a job

A job is a plain unit of work. What it does next is a `Demand`: it writes a line to its log, waits,
or ends. It sees two signals, one that asks it to cancel and one that interrupts it, and nothing
else of the outside. It may look for either at any time, and what it does then may depend on what it
sees, so its work is a tree. `Ending.report` maps how it ended, with the signals at that moment, to
the status that is reported for the task.
-/

namespace TaskCluster

/-- How a job failed. -/
inductive JobError where
  /-- The job was interrupted. -/
  | interrupted
  /-- A resource that the job works on does not exist. -/
  | missingResource (text : String)
  /-- A failure of the surroundings, worth another try. -/
  | transient (text : String)
  /-- A failure that another try would not mend. -/
  | permanent (text : String)
deriving DecidableEq, Repr

def JobError.message : JobError → String
  | .interrupted => "interrupted"
  | .missingResource text | .transient text | .permanent text => text

/-- How the work of a job ended. -/
inductive Ending where
  | completed
  | failed (error : JobError)
  | panicked
deriving DecidableEq, Repr

/-- What a job is told from outside. -/
inductive Signal where
  | cancel
  | interrupt
deriving DecidableEq, Repr

/-- The signals that a job sees. -/
structure Signals where
  canceled : Bool := false
  interrupted : Bool := false
deriving DecidableEq, Repr

namespace Signals

/-- Is the signal there? -/
def has (s : Signals) : Signal → Bool
  | .cancel => s.canceled
  | .interrupt => s.interrupted

/-- Is there a signal at all? -/
def any (s : Signals) : Bool := s.canceled || s.interrupted

end Signals

/-- The line about an interrupted job. -/
def interruptedMessage : String := "Task execution was interrupted"

/-- The line about a job that panicked. -/
def panicMessage : String :=
  "ERROR: Task execution interrupted due panic, see log file for details"

/-- The status to report for a job that ended, with a line for the log. -/
def Ending.report (e : Ending) (s : Signals) : Status × Option String :=
  match e with
  | .completed =>
    if s.interrupted then (.failover, some interruptedMessage)
    else if s.canceled then (.canceled, none)
    else (.finishedOk, none)
  | .failed .interrupted => (.failover, some interruptedMessage)
  | .failed (.missingResource text) =>
    (.finishedError, some ("ERROR: Task finished due missing resource: " ++ text))
  | .failed (.transient text) =>
    (.failover, some ("ERROR: Task execution interrupted due " ++ text))
  | .failed (.permanent text) =>
    (.finishedError, some ("ERROR: Task finished due error: " ++ text))
  | .panicked => (.failover, some panicMessage)

/-- One action of a job. -/
inductive Action where
  | log (line : String)
  /-- Writes the id of the task. -/
  | logId
  /-- Writes the signals. -/
  | flags
  /-- Sleeps; an interrupt ends the job. -/
  | sleep (d : Duration)
  /-- Sleeps whatever happens. -/
  | hardSleep (d : Duration)
  | waitInterrupt
  /-- Sleeps over and over until there is a signal. -/
  | poll (d : Duration)
  | finish (e : Ending)
deriving DecidableEq, Repr

/-- The work that a job has still to do. -/
inductive Work where
  /-- Nothing is left to do. -/
  | nil
  | act (action : Action) (rest : Work)
  /-- Looks for a signal and goes on accordingly. -/
  | look (signal : Signal) (seen unseen : Work)
  /-- Before a slice of sleep: `done` slices of `steps` are over and `left` are to come. -/
  | slices (slice : Duration) (steps done left : Nat)
  /-- After a slice of sleep that is not yet counted in `done`. -/
  | slept (slice : Duration) (steps done left : Nat)
deriving DecidableEq, Repr

/-- The actions of a script, one after the other; a script that runs off its end is complete. -/
def Work.script (actions : List Action) : Work := actions.foldr .act .nil

/-- What a job does next. -/
inductive Demand where
  | write (line : String) (rest : Work)
  /-- Goes on at once, in the light of the signals that it has seen. -/
  | goOn (rest : Work)
  /-- Waits; an interrupt ends the job. -/
  | pause (d : Duration) (rest : Work)
  /-- Waits whatever happens. -/
  | block (d : Duration) (rest : Work)
  | awaitInterrupt (rest : Work)
  | finish (e : Ending)
deriving DecidableEq, Repr

/-- The line that shows the signals. -/
def Signals.line (s : Signals) : String :=
  "canceled=" ++ toString s.canceled ++ " interrupted=" ++ toString s.interrupted ++
    " either=" ++ toString s.any

/-- The demand of an action with some work behind it. A poll looks again after a millisecond at the
earliest. -/
def Action.demand (id : String) (s : Signals) (rest : Work) : Action → Demand
  | .log line => .write line rest
  | .logId => .write ("id " ++ id) rest
  | .flags => .write s.line rest
  | .sleep d => .pause d rest
  | .hardSleep d => .block d rest
  | .waitInterrupt => .awaitInterrupt rest
  | .poll d =>
    if s.any then .goOn rest else .block ⟨max d.nanos nanosPerMilli⟩ (.act (.poll d) rest)
  | .finish e => .finish e

/-- The line about a slice that is over. -/
def stepLine (number steps : Nat) : String :=
  "Step " ++ toString number ++ "/" ++ toString steps ++ " done"

/-- The line about a job that stopped before its last slice. -/
def stoppedLine (done steps : Nat) : String :=
  "Stopped after " ++ toString done ++ " of " ++ toString steps ++ " steps"

/-- What a job does next, given its task and the signals. -/
def Work.next (id : String) (s : Signals) : Work → Demand
  | .nil => .finish .completed
  | .act action rest => action.demand id s rest
  | .look signal seen unseen => .goOn (if s.has signal then seen else unseen)
  | .slices _ _ _ 0 => .finish .completed
  | .slices slice steps done (left + 1) =>
    if s.any then .write (stoppedLine done steps) .nil
    else .pause slice (.slept slice steps done left)
  | .slept slice steps done left =>
    .write (stepLine (done + 1) steps) (.slices slice steps (done + 1) left)

/-- A bound on the demands that a job can make without waiting. -/
def Work.size : Work → Nat
  | .nil => 0
  | .act _ rest => rest.size + 1
  | .look _ seen unseen => max seen.size unseen.size + 1
  | .slices _ _ _ left => 2 * left + 1
  | .slept _ _ _ left => 2 * left + 2

/-- The work behind a demand that may be met at once: all but a wait that takes time. -/
def Demand.immediate? : Demand → Option Work
  | .write _ rest | .goOn rest | .pause _ rest | .awaitInterrupt rest => some rest
  | .block d rest => if d.nanos = 0 then some rest else none
  | .finish _ => none

theorem Action.eq_of_immediate? {id : String} {s : Signals} {action : Action} {work rest : Work}
    (h : (action.demand id s work).immediate? = some rest) : work = rest := by
  cases action with
  | poll d =>
    simp only [demand] at h
    split at h
    · exact Option.some.inj h
    · have hd : max d.nanos nanosPerMilli ≠ 0 := by
        simp only [nanosPerMilli]
        omega
      simp [Demand.immediate?, hd] at h
  | hardSleep d =>
    simp only [demand, Demand.immediate?] at h
    split at h
    · exact Option.some.inj h
    · cases h
  | finish e => cases h
  | _ => exact Option.some.inj h

theorem Work.next_size_lt {id : String} {s : Signals} {w rest : Work}
    (h : (w.next id s).immediate? = some rest) : rest.size < w.size := by
  cases w with
  | nil => cases h
  | act action work =>
    obtain rfl := Action.eq_of_immediate? h
    exact Nat.lt_succ_self _
  | look signal seen unseen =>
    obtain rfl := Option.some.inj h
    simp only [size]
    split <;> omega
  | slices slice steps done left =>
    cases left with
    | zero => simp [next, Demand.immediate?] at h
    | succ left =>
      simp only [next] at h
      split at h <;>
      · simp only [Demand.immediate?, Option.some.injEq] at h
        subst h
        simp only [size]
        omega
  | slept slice steps done left =>
    simp only [next, Demand.immediate?, Option.some.injEq] at h
    subst h
    simp only [size]
    omega

end TaskCluster
