import Mathlib
import TaskCluster.Proofs.Record.LogLines
import TaskCluster.Proofs.Store.Cancellation
import TaskCluster.Proofs.Store.Outcome

/-!
# The log of a task over time

A message comes into a log from five places: it is logged, it comes with a change of the status or
with a report, a sweep writes it about a run that it gives up, and a claim scan writes it about a
task that was lost too often. The first three are told by the answer of the call
(`Answer.message?`), the other two by what the call made of the record (`Call.notice?`).

One turn adds to the log the message that is accepted with it, and adds it once (`Turn.log_eq`). So
the log after any traffic is that of all messages accepted so far.
-/

namespace TaskCluster

/-! ### Accepted messages -/

/-- The message that a call brings for the task of an id, if its answer accepts it. -/
def Answer.message? (id : String) : Answer → Option String
  | ⟨.log id' line, .ok _⟩ => if id' = id then some line else none
  | ⟨.change id' _ message, .ok true⟩ => if id' = id then message else none
  | ⟨.changeFor id' _ _ message, .ok true⟩ => if id' = id then message else none
  | _ => none

/-- The message that a call itself writes about a record: a sweep about a run that it fails over,
and a scan about a task that it cancels though nobody asked for that, because it was lost too
often. -/
def Call.notice? (now : Instant) (old new : Record) : Call → Option String
  | .heartbeat node .. =>
    if old.status = .running ∧ new.status = .failover then some (old.staleMessage node now)
    else none
  | .claim _ =>
    if old.status = .failover ∧ new.status = .canceled ∧ old.cancelRequested = false then
      some Record.tooManyAttempts
    else none
  | _ => none

/-- The message that is accepted for the task of an id with an outcome, and with what becomes of the
record at a moment. -/
def Answer.accepted? (id : String) (moment : Option Moment) (before after : Option Record)
    (a : Answer) : Option String :=
  a.message? id <|> do
    let m ← moment
    a.1.notice? m.now.toInstant (← before) (← after)

theorem Answer.message?_of_affirms {id : String} {a : Answer} (h : a.affirms id = false) :
    a.message? id = none := by
  obtain ⟨c, result⟩ := a
  cases c with
  | log id' line =>
    cases result with
    | error e => rfl
    | ok => exact if_neg (beq_eq_false_iff_ne.mp h)
  | change id' next message =>
    match result with
    | .error e => rfl
    | .ok false => rfl
    | .ok true => exact if_neg (beq_eq_false_iff_ne.mp h)
  | changeFor id' claim next message =>
    match result with
    | .error e => rfl
    | .ok false => rfl
    | .ok true => exact if_neg (beq_eq_false_iff_ne.mp h)
  | _ => rfl

/-- No call writes about a record that it leaves alone. -/
theorem Call.notice?_self (c : Call) (now : Instant) (r : Record) : c.notice? now r r = none := by
  cases c with
  | claim => exact if_neg (by rintro ⟨hlost, hcanceled, -⟩; simp [hlost] at hcanceled)
  | heartbeat => exact if_neg (by rintro ⟨hrun, hlost⟩; simp [hrun] at hlost)
  | _ => rfl

theorem Answer.accepted?_of_affirms {id : String} {a : Answer} (h : a.affirms id = false)
    (moment : Option Moment) (r : Option Record) : a.accepted? id moment r r = none := by
  rw [accepted?, message?_of_affirms h]
  cases moment with
  | none => rfl
  | some m =>
    cases r with
    | none => rfl
    | some r => exact a.1.notice?_self m.now.toInstant r

/-! ### Logs of records -/

namespace Record

variable (r : Record)

theorem log_changeStatus (next : Status) (message : Option String) (now : Instant) :
    (r.changeStatus next message now).2.log
      = Log.append? r.log (if (r.changeStatus next message now).1 then message else none) := by
  unfold changeStatus
  split <;> rfl

theorem log_changeStatusFor (c : Claim) (next : Status) (message : Option String)
    (now : Instant) :
    (r.changeStatusFor c next message now).2.log
      = Log.append? r.log (if (r.changeStatusFor c next message now).1 then message else none) := by
  unfold changeStatusFor
  split
  · exact r.log_changeStatus next message now
  · rfl

/-- A sweep writes about a run that it fails over. -/
theorem log_checkHeartbeat (node : String) (listed : List String) (timeout : Duration)
    (now : Instant) :
    (r.checkHeartbeat node listed timeout now).2.log
      = Log.append? r.log ((Call.heartbeat node listed timeout).notice? now r
          (r.checkHeartbeat node listed timeout now).2) := by
  unfold checkHeartbeat
  split
  case isTrue hidle => rw [Call.notice?, if_neg (fun h => hidle h.1), Log.append?]
  case isFalse hrun =>
    have hrun : r.status = .running := not_not.mp hrun
    split
    case isTrue => rw [Call.notice?, if_neg (by simp [hrun]), Log.append?]
    case isFalse =>
      split
      case isTrue =>
        have hchange : r.changeStatus .failover (some (r.staleMessage node now)) now
            = (true, r.moved .failover (some (r.staleMessage node now)) now) :=
          if_pos (by rw [hrun]; rfl)
        rw [hchange, if_pos rfl, Call.notice?, if_pos ⟨hrun, rfl⟩]
        rfl
      case isFalse => rw [Call.notice?, if_neg (by simp [hrun]), Log.append?]

/-- A scan writes about a task that it cancels because it was lost too often. -/
theorem log_offered (node : String) (policy : FailoverPolicy) (now : Instant) :
    (r.offered node policy now).log
      = Log.append? r.log ((Call.claim node).notice? now r (r.offered node policy now)) := by
  cases hcancel : r.cancelRequested with
  | true =>
    have hsilent : ∀ new, (Call.claim node).notice? now r new = none := by
      intro new
      exact if_neg (by simp [hcancel])
    rw [hsilent, offered, offer_of_cancelRequested hcancel]
    by_cases hnow : r.isRunnableNow node policy now = true
    · rw [if_pos hnow]
      rfl
    · rw [if_neg hnow]
      rfl
  | false =>
    unfold offered
    rcases r.offer_cases node policy now with
      ho | ⟨-, -, hrequested⟩ | ⟨ho, -, hlost, -⟩ | ⟨ho, -⟩ | ⟨ho, -⟩
    · rw [ho, Call.notice?_self, Log.append?]
    · rw [hcancel] at hrequested
      cases hrequested
    · rw [ho, Call.notice?, if_pos ⟨hlost, rfl, hcancel⟩]
      rfl
    · rw [ho, Call.notice?, if_neg (by simp [running])]
      rfl
    · rw [ho, Call.notice?, if_neg (by simp [begun])]
      rfl

/-- A scan that cancels a task though nobody asked for that has found it lost too often. -/
theorem limit_of_canceled {r : Record} {node : String} {policy : FailoverPolicy} {now : Instant}
    (h : (r.offered node policy now).status = .canceled) (hlost : r.status = .failover)
    (hcancel : r.cancelRequested = false) : policy.maxAttempts ≤ r.runCount := by
  unfold offered at h
  rcases r.offer_cases node policy now with
    ho | ⟨-, -, hrequested⟩ | ⟨-, -, -, hlimit⟩ | ⟨ho, -⟩ | ⟨ho, -⟩
  · rw [ho, hlost] at h
    cases h
  · rw [hcancel] at hrequested
    cases hrequested
  · exact hlimit
  · rw [ho] at h
    cases h
  · rw [ho] at h
    cases h

end Record

/-- The log of a task; none before it is created. -/
def Record.logOf (r : Option Record) : Option String := r.bind Record.log

/-- A turn adds to the log the message that is accepted with it, once. -/
theorem Turn.log_eq {id : String} {a : Answer} {moment : Option Moment}
    {before after : Option Record} (h : Turn id (some a) moment before after) :
    Record.logOf after
      = Log.append? (Record.logOf before) (a.accepted? id moment before after) := by
  cases h with
  | idle hnot =>
    rw [Answer.accepted?_of_affirms (hnot a rfl), Log.append?]
  | created taskType config hanswer =>
    obtain rfl := Option.some.inj hanswer
    rfl
  | cancelRequested hanswer =>
    obtain rfl := Option.some.inj hanswer
    unfold Record.requestCancel
    split <;> rfl
  | @changed m r next message hanswer =>
    obtain rfl := Option.some.inj hanswer
    have hlog := r.log_changeStatus next message m.now.toInstant
    cases hdone : (r.changeStatus next message m.now.toInstant).1 with
    | true =>
      rw [hdone, if_pos rfl] at hlog
      rw [Answer.accepted?, Answer.message?, if_pos rfl]
      cases message <;> exact hlog
    | false =>
      rw [hdone] at hlog
      exact hlog
  | @reported m r c next message hanswer =>
    obtain rfl := Option.some.inj hanswer
    have hlog := r.log_changeStatusFor c next message m.now.toInstant
    cases hdone : (r.changeStatusFor c next message m.now.toInstant).1 with
    | true =>
      rw [hdone, if_pos rfl] at hlog
      rw [Answer.accepted?, Answer.message?, if_pos rfl]
      cases message <;> exact hlog
    | false =>
      rw [hdone] at hlog
      exact hlog
  | logged line hanswer =>
    obtain rfl := Option.some.inj hanswer
    rw [Answer.accepted?, Answer.message?, if_pos rfl]
    rfl
  | @offered m r node hcall =>
    obtain ⟨c, result⟩ := a
    obtain rfl : c = .claim node := hcall _ rfl
    exact r.log_offered node m.policy m.now.toInstant
  | @checked m r node listed timeout hcall =>
    obtain ⟨c, result⟩ := a
    obtain rfl : c = .heartbeat node listed timeout := hcall _ rfl
    exact r.log_checkHeartbeat node listed timeout m.now.toInstant

namespace Traffic

/-- The message that the `i`-th event brings into the log of a task. -/
def messageAt (s : Traffic) (events : List Event) (id : String) (i : Nat) : Option String :=
  (s.outcomeAt events i).bind <|
    Answer.accepted? id (momentAt events id i) (s.recordAt events id i)
      (s.recordAt events id (i + 1))

/-- The messages that were accepted for a task before the `i`-th event, in order. -/
def messagesAt (s : Traffic) (events : List Event) (id : String) (i : Nat) : List String :=
  (List.range i).filterMap (s.messageAt events id)

variable {s : Traffic} {events : List Event}

theorem messagesAt_succ (id : String) (i : Nat) :
    s.messagesAt events id (i + 1)
      = s.messagesAt events id i ++ (s.messageAt events id i).toList := by
  unfold messagesAt
  rw [List.range_succ, List.filterMap_append]
  rfl

/-- One event adds its message to the log. -/
theorem Distinct.log_succ (h : Distinct s events) (id : String) (i : Nat) :
    Record.logOf (s.recordAt events id (i + 1))
      = Log.append? (Record.logOf (s.recordAt events id i)) (s.messageAt events id i) := by
  cases houtcome : s.outcomeAt events i with
  | none => rw [recordAt_succ_of_outcome_none houtcome, messageAt, houtcome]; rfl
  | some a =>
    have hturn := h.turn_outcome id i
    rw [houtcome] at hturn
    rw [messageAt, houtcome]
    exact hturn.log_eq

namespace FromScratch

variable (h : FromScratch s events)

include h

/-- What carries the induction over the events: the log is that of the messages so far. -/
theorem log_eq (id : String) (i : Nat) :
    Record.logOf (s.recordAt events id i) = Log.ofMessages (s.messagesAt events id i) := by
  induction i with
  | zero =>
    rw [h.recordAt_zero]
    rfl
  | succ i ih => rw [h.distinct.log_succ, ih, Log.append?_ofMessages, ← messagesAt_succ]

/-- A scan that cancels a task in failover though nobody asked for that has met the limit of
attempts. -/
theorem limit_of_scan {id node : String} {i : Nat} {r new : Record}
    (hscan : s.ScansFor events i node) (hr : s.recordAt events id i = some r)
    (hlost : r.status = .failover) (hcancel : r.cancelRequested = false)
    (hnew : s.recordAt events id (i + 1) = some new) (hcanceled : new.status = .canceled) :
    ∃ m, momentAt events id i = some m ∧ m.policy.maxAttempts ≤ r.runCount := by
  obtain ⟨a, ha, hclaim⟩ := scansFor_iff.mp hscan
  have hturn := h.distinct.turn_outcome id i
  rw [ha, hr, hnew] at hturn
  have hne : some new ≠ some r := by
    intro heq
    rw [Option.some.inj heq, hlost] at hcanceled
    cases hcanceled
  obtain ⟨m, hmoment, hoffered⟩ := hturn.of_claim hclaim hne
  rw [Option.some.inj hoffered] at hcanceled
  exact ⟨m, hmoment, Record.limit_of_canceled hcanceled hlost hcancel⟩

/-- **A log keeps the newest of all that was accepted**, in any traffic from an empty store. With no
line among the messages that were accepted for a task its record has no log. Else the log is what is
left of these lines, joined in the order in which they were accepted, if all is dropped but as many
characters as a log keeps at most. A claim contributes to it only where it cancels the task because
the limit of attempts is met. -/
theorem log_keeps_newest (id : String) :
    (∀ i r, s.recordAt events id i = some r →
      r.log = Log.ofMessages (s.messagesAt events id i))
    ∧ (∀ i node r new, s.ScansFor events i node → s.recordAt events id i = some r →
        r.status = .failover → r.cancelRequested = false →
        s.recordAt events id (i + 1) = some new → new.status = .canceled →
        ∃ m, momentAt events id i = some m ∧ m.policy.maxAttempts ≤ r.runCount) := by
  refine ⟨?_, fun i node r new => h.limit_of_scan⟩
  intro i r hr
  have hlog := h.log_eq id i
  rw [hr] at hlog
  exact hlog

end FromScratch

/-- A blank message and that of a refused change leave no trace in the log of a task that is
canceled because it was lost too often. -/
theorem log_keeps_newest_of_lost_task :
    let s : Traffic := ⟨.database {}, []⟩
    let clock : Readings := fun _ => .epoch
    let once : FailoverPolicy := { maxAttempts := 1 }
    let events : List Event :=
      [.call once clock (.create "t" "noop" none), .call once clock (.claim "a"),
        .call once clock (.log "t" "started"), .call once clock (.log "t" " "),
        .call once clock (.change "t" .new (some "again")),
        .call once clock (.change "t" .failover (some "lost")), .call once clock (.claim "b")]
    FromScratch s events
      ∧ s.messagesAt events "t" 7 = ["started", " ", "lost", Record.tooManyAttempts]
      ∧ ∃ r, s.recordAt events "t" 7 = some r
        ∧ r.log = some "started\nlost\nCancelled due too much failover attempts" := by
  intro s clock once events
  have h : FromScratch s events := ⟨rfl, by decide⟩
  have hmessages : s.messagesAt events "t" 7 = ["started", " ", "lost", Record.tooManyAttempts] := by
    decide +kernel
  have hthere : (s.recordAt events "t" 7).isSome = true := by decide +kernel
  obtain ⟨r, hr⟩ := Option.isSome_iff_exists.mp hthere
  refine ⟨h, hmessages, r, hr, ?_⟩
  rw [(FromScratch.log_keeps_newest h "t").1 7 r hr, hmessages]
  decide +kernel

end Traffic

end TaskCluster
