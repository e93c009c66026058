import Mathlib
import TaskCluster.Proofs.Store.DatabaseTurn
import TaskCluster.Proofs.Store.Fencing

/-!
# The law of the lifecycle

Whatever a store holds and whatever it is called, a record goes along one edge of the transition
table at most, stays with its task, and loses neither a run from its count nor the request to stop;
one that has ended for good changes in its log alone, and only when a line is logged for it. The
paths that set a status without asking the table, as those of a claim do, obey the law all the same.
It is read off the cases of `Turn`, so it holds of both kinds of stores and of records that no
history of calls leads to.
-/

namespace TaskCluster

/-! ### Lawful transitions -/

namespace Status

/-- No edge of the table leads out of a terminal status. -/
theorem not_canChangeTo_of_isTerminal {s : Status} (h : s.isTerminal = true) (next : Status) :
    s.canChangeTo next = false := by
  cases s <;> first | rfl | cases h

theorem not_isRunnable_of_isTerminal {s : Status} (h : s.isTerminal = true) :
    s.isRunnable = false := by
  cases s <;> first | rfl | cases h

theorem not_isCancelable_of_isTerminal {s : Status} (h : s.isTerminal = true) :
    s.isCancelable = false := by
  cases s <;> first | rfl | cases h

/-- What an offer makes of a status that may be offered is an edge of the table. -/
theorem canChangeTo_of_isRunnable {s : Status} (h : s.isRunnable = true) :
    s.canChangeTo .canceled = true ∧ s.canChangeTo .running = true := by
  cases s <;> first | exact ⟨rfl, rfl⟩ | cases h

end Status

namespace Record

/-- What may become of a record in one call. -/
structure Lawful (old new : Record) : Prop where
  status : new.status = old.status ∨ old.status.canChangeTo new.status = true
  same : SameTask old new
  runCount : old.runCount ≤ new.runCount
  cancelRequested : old.cancelRequested = true → new.cancelRequested = true

theorem Lawful.refl (r : Record) : Lawful r r :=
  ⟨Or.inl rfl, .refl r, UInt32.le_refl _, fun h => h⟩

theorem lawful_requestCancel (r : Record) : Lawful r r.requestCancel.2 := by
  unfold requestCancel
  split
  · exact .refl r
  · exact ⟨Or.inl rfl, ⟨rfl, rfl, rfl, rfl⟩, UInt32.le_refl _, fun _ => rfl⟩

theorem lawful_changeStatus (r : Record) (next : Status) (message : Option String)
    (now : Instant) : Lawful r (r.changeStatus next message now).2 := by
  unfold changeStatus
  split
  case isTrue h => exact ⟨Or.inr h, ⟨rfl, rfl, rfl, rfl⟩, UInt32.le_refl _, fun hc => hc⟩
  case isFalse => exact .refl r

theorem lawful_changeStatusFor (r : Record) (c : Claim) (next : Status) (message : Option String)
    (now : Instant) : Lawful r (r.changeStatusFor c next message now).2 := by
  unfold changeStatusFor
  split
  · exact r.lawful_changeStatus next message now
  · exact .refl r

theorem lawful_appendLog (r : Record) (line : String) : Lawful r (r.appendLog line) :=
  ⟨Or.inl rfl, ⟨rfl, rfl, rfl, rfl⟩, UInt32.le_refl _, fun h => h⟩

theorem lawful_checkHeartbeat (r : Record) (node : String) (ids : List String)
    (timeout : Duration) (now : Instant) :
    Lawful r (r.checkHeartbeat node ids timeout now).2 := by
  have hchange := r.lawful_changeStatus .failover (some (r.staleMessage node now)) now
  unfold checkHeartbeat
  split
  · exact .refl r
  split
  · exact ⟨Or.inl rfl, ⟨rfl, rfl, rfl, rfl⟩, UInt32.le_refl _, fun h => h⟩
  split
  · dsimp only
    split <;> exact hchange
  · exact .refl r

/-- An offer sets the status without asking the table, and along an edge of it. -/
theorem lawful_offered (r : Record) (node : String) (policy : FailoverPolicy) (now : Instant) :
    Lawful r (r.offered node policy now) := by
  have hsame := r.sameTask_offered node policy now
  unfold offered at hsame ⊢
  rcases r.offer_cases node policy now with
    ho | ⟨ho, hr, -⟩ | ⟨ho, hr, -⟩ | ⟨ho, hr, -, -, hlt⟩ | ⟨ho, hr, -⟩ <;> rw [ho] at hsame ⊢
  · exact .refl r
  · exact ⟨Or.inr (Status.canChangeTo_of_isRunnable hr).1, hsame, UInt32.le_refl _, fun h => h⟩
  · exact ⟨Or.inr (Status.canChangeTo_of_isRunnable hr).1, hsame, UInt32.le_refl _, fun h => h⟩
  · refine ⟨Or.inr (Status.canChangeTo_of_isRunnable hr).2, hsame, ?_, fun h => h⟩
    have hcount := toNat_runCount_running hlt node now
    rw [UInt32.le_iff_toNat_le]
    change r.runCount.toNat ≤ (r.running node now).runCount.toNat
    omega
  · exact ⟨Or.inr (Status.canChangeTo_of_isRunnable hr).2, hsame, UInt32.le_refl _, fun h => h⟩

/-! ### Tasks that have ended -/

section Ended

variable {r : Record} (h : r.status.isTerminal = true)

include h

theorem requestCancel_of_isTerminal : r.requestCancel = (false, r) := by
  rw [requestCancel, Status.not_isCancelable_of_isTerminal h, Bool.not_false, Bool.or_true,
    if_pos rfl]

theorem changeStatus_of_isTerminal (next : Status) (message : Option String) (now : Instant) :
    r.changeStatus next message now = (false, r) := by
  rw [changeStatus, Status.not_canChangeTo_of_isTerminal h, if_neg Bool.false_ne_true]

theorem changeStatusFor_of_isTerminal (c : Claim) (next : Status) (message : Option String)
    (now : Instant) : r.changeStatusFor c next message now = (false, r) := by
  rw [changeStatusFor, changeStatus_of_isTerminal h, ite_self]

theorem checkHeartbeat_of_isTerminal (node : String) (ids : List String) (timeout : Duration)
    (now : Instant) : r.checkHeartbeat node ids timeout now = (.untouched, r) := by
  refine checkHeartbeat_of_not_running ?_ node ids timeout now
  intro hs
  rw [hs] at h
  cases h

theorem offered_of_isTerminal (node : String) (policy : FailoverPolicy) (now : Instant) :
    r.offered node policy now = r := by
  rw [offered, offer_of_not_isRunnable node policy now (Status.not_isRunnable_of_isTerminal h)]

end Ended

end Record

namespace Turn

variable {id : String} {answer : Option Answer} {moment : Option Moment} {r : Record}
  {after : Option Record}

/-- A record goes on lawfully, and does not disappear. -/
theorem lawful (h : Turn id answer moment (some r) after) :
    ∃ r', after = some r' ∧ Record.Lawful r r' := by
  cases h with
  | idle => exact ⟨r, rfl, .refl r⟩
  | cancelRequested => exact ⟨_, rfl, r.lawful_requestCancel⟩
  | changed next message => exact ⟨_, rfl, r.lawful_changeStatus next message _⟩
  | reported c next message => exact ⟨_, rfl, r.lawful_changeStatusFor c next message _⟩
  | logged line => exact ⟨_, rfl, r.lawful_appendLog line⟩
  | offered node => exact ⟨_, rfl, r.lawful_offered node _ _⟩
  | checked node listed timeout => exact ⟨_, rfl, r.lawful_checkHeartbeat node listed timeout _⟩

/-- A record of a task that has ended stays as it is, unless a line is logged for it. -/
theorem of_isTerminal (h : Turn id answer moment (some r) after)
    (hended : r.status.isTerminal = true) :
    after = some r ∨ ∃ line, answer = some ⟨.log id line, .ok ()⟩
      ∧ after = some (r.appendLog line) := by
  cases h with
  | idle => exact Or.inl rfl
  | cancelRequested => exact Or.inl (by rw [Record.requestCancel_of_isTerminal hended])
  | changed => exact Or.inl (by rw [Record.changeStatus_of_isTerminal hended])
  | reported => exact Or.inl (by rw [Record.changeStatusFor_of_isTerminal hended])
  | logged line hanswer => exact Or.inr ⟨line, hanswer, rfl⟩
  | offered => exact Or.inl (by rw [Record.offered_of_isTerminal hended])
  | checked => exact Or.inl (by rw [Record.checkHeartbeat_of_isTerminal hended])

end Turn

/-! ### Calls of either kind of store -/

/-- The one id that a call is about, if it is about one. -/
def Call.target? : Call → Option String
  | .create id .. | .get id | .requestCancel id | .change id .. | .changeFor id .. | .log id _ =>
    some id
  | .list _ | .claim _ | .heartbeat .. => none

/-- A call about another id is not a turn at this one. -/
theorem Turn.of_target_ne {id target : String} {a : Answer} {moment : Option Moment}
    {before after : Option Record} (h : Turn id (some a) moment before after)
    (htarget : a.1.target? = some target) (hne : id ≠ target) : after = before := by
  have habout : ∀ {c : Call} {result : Except Abort c.Result}, c.target? = some id →
      some a ≠ some ⟨c, result⟩ := by
    rintro c result hc heq
    obtain rfl := Option.some.inj heq
    exact hne (Option.some.inj (hc.symm.trans htarget))
  have hscan : ∀ {c : Call}, c.target? = none → a.1 ≠ c := by
    rintro c hc rfl
    rw [hc] at htarget
    cases htarget
  cases h with
  | idle => rfl
  | created _ _ hanswer => exact absurd hanswer (habout rfl)
  | cancelRequested hanswer => exact absurd hanswer (habout rfl)
  | changed _ _ hanswer => exact absurd hanswer (habout rfl)
  | reported _ _ _ hanswer => exact absurd hanswer (habout rfl)
  | logged _ hanswer => exact absurd hanswer (habout rfl)
  | offered _ hcall => exact absurd (hcall a rfl) (hscan rfl)
  | checked _ _ _ hcall => exact absurd (hcall a rfl) (hscan rfl)

namespace Store

/-- Answers a call, with a reading of the clock for each record that it looks at. -/
def performAt (policy : FailoverPolicy) (clock : Readings) (s : Store) (c : Call) :
    Except Abort c.Result × Store :=
  match s with
  | .memory m =>
    let (result, m) := m.performAt policy clock c
    (result, .memory m)
  | .database d =>
    let (result, d) := d.performAt policy clock c
    (result, .database d)

theorem record?_database (d : Database) (id : String) :
    (Store.database d).record? id = d.table.record? id := by
  dsimp only [record?, Database.get, Table.record?]
  cases d.table.find? id with
  | none => rfl
  | some row =>
    rw [Option.bind_some]
    dsimp only
    generalize row.read = x
    cases x <;> rfl

variable (policy : FailoverPolicy) (clock : Readings)

/-- A call makes one turn at each id, whatever the store holds. -/
theorem turn_performAt (s : Store) (c : Call) (hfresh : ∀ id ∈ c.created?, s.record? id = none)
    (id : String) :
    Turn id (some ⟨c, (s.performAt policy clock c).1⟩) (some ⟨policy, clock id⟩) (s.record? id)
      ((s.performAt policy clock c).2.record? id) := by
  cases s with
  | memory m => exact m.turn_performAt policy clock c hfresh id
  | database d =>
    have hturn := d.turn_performAt policy clock c id
    rw [← record?_database, ← record?_database] at hturn
    exact hturn

/-! ### Refused changes -/

section Refused

variable {policy clock} {s : Store} {id : String}

theorem requestCancel_refused (h : (s.performAt policy clock (.requestCancel id)).1 = .ok false) :
    (s.performAt policy clock (.requestCancel id)).2 = s := by
  cases s with
  | memory m =>
    exact congrArg Store.memory
      (Memory.update_refused (fun _ => Record.requestCancel_refused) (Except.ok.inj h))
  | database d =>
    exact congrArg Store.database
      (Database.write_refused (fun _ _ => Transaction.changeIf_refused) h)

theorem change_refused {next : Status} {message : Option String}
    (h : (s.performAt policy clock (.change id next message)).1 = .ok false) :
    (s.performAt policy clock (.change id next message)).2 = s := by
  cases s with
  | memory m =>
    exact congrArg Store.memory
      (Memory.update_refused (fun _ => Record.changeStatus_refused) (Except.ok.inj h))
  | database d =>
    exact congrArg Store.database
      (Database.write_refused (fun _ _ => Transaction.changeIf_refused) h)

theorem changeFor_refused {c : Claim} {next : Status} {message : Option String}
    (h : (s.performAt policy clock (.changeFor id c next message)).1 = .ok false) :
    (s.performAt policy clock (.changeFor id c next message)).2 = s := by
  cases s with
  | memory m =>
    exact congrArg Store.memory
      (Memory.update_refused (fun _ => Record.changeStatusFor_refused) (Except.ok.inj h))
  | database d =>
    exact congrArg Store.database
      (Database.write_refused (fun _ _ => Transaction.changeIf_refused) h)

end Refused

/-- **Every call obeys the lifecycle**, on either kind of store and whatever the store holds. A
record that can be read goes on lawfully, and one that has ended changes in its log alone, when a
line is logged for it; a call about one task leaves the records of all others alone; and a change
that is refused leaves the whole store as it is. -/
theorem calls_obey_lifecycle (s : Store) :
    (∀ c : Call, (∀ id ∈ c.created?, s.record? id = none) → ∀ id r, s.record? id = some r →
      ∃ r', (s.performAt policy clock c).2.record? id = some r' ∧ Record.Lawful r r'
        ∧ (r.status.isTerminal = true → r' = { r with log := r'.log }
            ∧ (r' ≠ r → ∃ line, c = .log id line)))
    ∧ (∀ c : Call, (∀ id ∈ c.created?, s.record? id = none) → ∀ target, c.target? = some target →
        ∀ id, id ≠ target → (s.performAt policy clock c).2.record? id = s.record? id)
    ∧ (∀ id, (s.performAt policy clock (.requestCancel id)).1 = .ok false →
        (s.performAt policy clock (.requestCancel id)).2 = s)
    ∧ (∀ id next message, (s.performAt policy clock (.change id next message)).1 = .ok false →
        (s.performAt policy clock (.change id next message)).2 = s)
    ∧ (∀ id claim next message,
        (s.performAt policy clock (.changeFor id claim next message)).1 = .ok false →
        (s.performAt policy clock (.changeFor id claim next message)).2 = s) := by
  refine ⟨?_, ?_, fun _ => requestCancel_refused, fun _ _ _ => change_refused,
    fun _ _ _ _ => changeFor_refused⟩
  · intro c hfresh id r hr
    have hturn := turn_performAt policy clock s c hfresh id
    rw [hr] at hturn
    obtain ⟨r', hr', hlawful⟩ := hturn.lawful
    refine ⟨r', hr', hlawful, fun hended => ?_⟩
    rcases hturn.of_isTerminal hended with hkept | ⟨line, hanswer, hlogged⟩
    · obtain rfl := Option.some.inj (hr'.symm.trans hkept)
      exact ⟨rfl, fun hne => absurd rfl hne⟩
    · obtain rfl := Option.some.inj (hr'.symm.trans hlogged)
      exact ⟨rfl, fun _ => ⟨line, congrArg Sigma.fst (Option.some.inj hanswer)⟩⟩
  · intro c hfresh target htarget id hne
    exact (turn_performAt policy clock s c hfresh id).of_target_ne htarget hne

/-- A task in failover with a full count that was asked to stop, in a database: a claim finds it,
and a new task is created beside it. -/
theorem calls_obey_lifecycle_for_full_count :
    let old : Record := { Record.fresh "t" "noop" none ClockTime.epoch.toInstant with
      status := .failover, runCount := 4294967295, cancelRequested := true }
    let s : Store := .database ⟨⟨[Row.ofRecord old], by decide⟩, false⟩
    let clock : Readings := fun _ => .epoch
    s.record? "t" = some old ∧ s.record? "u" = none
      ∧ (∃ r', (s.performAt {} clock (.claim "n")).2.record? "t" = some r'
          ∧ Record.Lawful old r')
      ∧ (s.performAt {} clock (.create "u" "noop" none)).2.record? "t" = s.record? "t" := by
  intro old s clock
  have hold : s.record? "t" = some old := by decide +kernel
  have hnew : s.record? "u" = none := by decide +kernel
  obtain ⟨hlaw, hframe, -⟩ := calls_obey_lifecycle {} clock s
  obtain ⟨r', hr', hlawful, -⟩ := hlaw (.claim "n") (by rintro id ⟨⟩) "t" old hold
  exact ⟨hold, hnew, ⟨r', hr', hlawful⟩,
    hframe (.create "u" "noop" none) (by rintro id ⟨⟩; exact hnew) "u" rfl "t" (by decide)⟩

end Store

end TaskCluster
