import Mathlib
import TaskCluster.Proofs.Store.Session
import TaskCluster.Store.Basic

/-!
# Calls that end without a result

A call of a database that ends without a result leaves the table as it was, wherever it ends: at the
write lock, at a row that cannot be read, at a fault of any statement, at an unknown task or at a
counter that overflows. A claim and a heartbeat may have written many rows by then.

That is so by the order of the statements. A transaction is begun first, and up to its commit all
statements are quiet: what they write stays in the table of the transaction, however often a loop
over the records has gone round (`quiet_offerEach`, `quiet_sweepEach`). Nothing behind the commit
can go wrong, but for a line to the log of a task that was not found, and then there was no commit.

A call that waits for the write lock in vain may answer as if it had found nothing to do, so
whether a call has failed is read off its statements and not off its answer (`Session.soften`).
-/

namespace TaskCluster

namespace Database

namespace Session

variable {α β : Type}

/-- What other connections see. -/
def database (s : Session) : Database := ⟨s.committed, s.locked⟩

/-! ### Statements before the commit -/

/-- With a transaction open, a script changes nothing that other connections see, and the
transaction stays open. -/
def Quiet (x : Script α) : Prop :=
  ∀ s : Session, s.pending.isSome → (x s).2.database = s.database ∧ (x s).2.pending.isSome

theorem quiet_endWith (result : Except Abort α) : Quiet (Script.endWith result) :=
  fun _ h => ⟨rfl, h⟩

theorem Quiet.bind {x : Script α} {f : α → Script β} (hx : Quiet x) (hf : ∀ a, Quiet (f a)) :
    Quiet (x >>= f) := by
  intro s hs
  obtain ⟨hsame, hopen⟩ := hx s hs
  rcases hend : x s with ⟨(e | a), s'⟩
  · rw [hend] at hsame hopen
    rw [Script.bind_of_error hend]
    exact ⟨hsame, hopen⟩
  · rw [hend] at hsame hopen
    rw [Script.bind_of_ok hend]
    obtain ⟨hsame', hopen'⟩ := hf a s' hopen
    exact ⟨hsame'.trans hsame, hopen'⟩

theorem quiet_query (read : Table → Except DatabaseFault α) : Quiet (query read) := by
  intro s hs
  unfold query
  split <;> exact ⟨rfl, hs⟩

theorem quiet_exec (write : Table → Except DatabaseFault Table) : Quiet (exec write) := by
  intro s hs
  unfold exec
  split
  case h_1 => exact ⟨rfl, hs⟩
  case h_2 => split <;> first | exact ⟨rfl, rfl⟩ | exact ⟨rfl, hs⟩
  case h_3 hnone =>
    rw [hnone] at hs
    cases hs

theorem quiet_offerEach (node : String) (policy : FailoverPolicy) (clock : Readings)
    (rs : List Record) : Quiet (offerEach node policy clock rs) := by
  induction rs with
  | nil => exact quiet_endWith (.ok none)
  | cons r rs ih =>
    rw [offerEach]
    cases r.offer node policy (clock r.id).toInstant with
    | passed => exact ih
    | canceled new => exact (quiet_exec _).bind fun _ => ih
    | taken new => exact (quiet_exec _).bind fun _ => quiet_endWith (.ok (some new))
    | overflowed new => exact quiet_endWith (.error (.overflow .counter))

theorem quiet_sweepEach (node : String) (listed : List String) (timeout : Duration)
    (clock : Readings) (rs : List Record) : Quiet (sweepEach node listed timeout clock rs) := by
  induction rs with
  | nil => exact quiet_endWith (.ok ())
  | cons r rs ih =>
    rw [sweepEach]
    obtain ⟨what, new⟩ := r.checkHeartbeat node listed timeout (clock r.id).toInstant
    cases what with
    | untouched => exact ih
    | _ => exact (quiet_exec _).bind fun _ => ih

theorem quiet_overwriteOrInsert (r : Record) : Quiet (overwriteOrInsert r) := by
  refine (quiet_query _).bind fun there => ?_
  cases there with
  | true => exact (quiet_exec _).bind fun _ => quiet_exec _
  | false => exact quiet_exec _

/-! ### Transactions that end in vain -/

/-- With a transaction open, a script that ends in one of some ways has changed nothing that other
connections see. -/
def Spares (ends : Except Abort α → Prop) (x : Script α) : Prop :=
  ∀ s : Session, s.pending.isSome → ends (x s).1 → (x s).2.database = s.database

theorem Quiet.spares {x : Script α} (h : Quiet x) (ends : Except Abort α → Prop) :
    Spares ends x :=
  fun s hs _ => (h s hs).1

theorem Quiet.bind_spares {x : Script α} {f : α → Script β} {ends : Except Abort β → Prop}
    (hx : Quiet x) (hf : ∀ a, Spares ends (f a)) : Spares ends (x >>= f) := by
  intro s hs hends
  obtain ⟨hsame, hopen⟩ := hx s hs
  rcases hend : x s with ⟨(e | a), s'⟩
  · rw [hend] at hsame
    rw [Script.bind_of_error hend]
    exact hsame
  · rw [hend] at hsame hopen
    rw [Script.bind_of_ok hend] at hends ⊢
    exact (hf a s' hopen hends).trans hsame

/-- A commit that goes wrong changes nothing, and behind one that does not stands the result. -/
theorem commit_spares {ends : Except Abort α → Prop} {a : α} (h : ¬ ends (.ok a)) :
    Spares ends (commit >>= fun _ => pure a) := by
  intro s hs hends
  have hcommit : (∃ e, commit s = (.error e, s.advanced)) ∨ ∃ s', commit s = (.ok (), s') := by
    unfold commit
    split
    · exact .inl ⟨_, rfl⟩
    · exact .inr ⟨_, rfl⟩
  obtain ⟨e, hend⟩ | ⟨s', hend⟩ := hcommit
  · rw [Script.bind_of_error hend]
    rfl
  · rw [Script.bind_of_ok hend] at hends
    exact absurd hends h

theorem openTransaction_cases (busy : Abort) (s : Session) :
    (∃ e, openTransaction busy s = (.error e, s.advanced))
      ∨ openTransaction busy s = (.ok (), { s.advanced with pending := some s.committed }) := by
  unfold openTransaction
  split
  · exact .inl ⟨_, rfl⟩
  · exact .inl ⟨_, rfl⟩
  · split
    · exact .inl ⟨_, rfl⟩
    · exact .inr rfl

/-- What is spared from the beginning of a transaction on is spared altogether. -/
theorem Spares.transaction {ends : Except Abort α → Prop} {x : Script α} (h : Spares ends x)
    (busy : Abort) (s : Session) (hends : ends ((openTransaction busy >>= fun _ => x) s).1) :
    ((openTransaction busy >>= fun _ => x) s).2.database = s.database := by
  obtain ⟨e, hopen⟩ | hopen := openTransaction_cases busy s
  · rw [Script.bind_of_error hopen]
    rfl
  · rw [Script.bind_of_ok hopen] at hends ⊢
    exact h _ rfl hends

theorem transact_error {body : Script α} (h : Quiet body) {busy : Abort} {s : Session} {e : Abort}
    (herror : (transact busy body s).1 = .error e) :
    (transact busy body s).2.database = s.database := by
  have hspares : Spares (fun result => ∃ e, result = .error e)
      (body >>= fun a => commit >>= fun _ => pure a) := by
    refine h.bind_spares fun a => commit_spares ?_
    intro hok
    obtain ⟨e, he⟩ := hok
    cases he
  exact hspares.transaction busy s ⟨e, herror⟩

/-- Only a change that finds its record commits anything. -/
theorem changeOne_spares (id : String) (f : Record → Bool × α × Record) (s : Session)
    (hends : ∀ a, (changeOne id f s).1 ≠ .ok (some a)) :
    (changeOne id f s).2.database = s.database := by
  have hspares : Spares (fun result => ∀ a, result ≠ .ok (some a)) (changeSelected id f) := by
    refine (quiet_query _).bind_spares fun r? => ?_
    cases r? with
    | none => exact (quiet_endWith (.ok none)).spares _
    | some r =>
      dsimp only
      split
      · exact (quiet_exec _).bind_spares fun _ => commit_spares (fun h => h _ rfl)
      · exact (quiet_endWith (.ok (some (f r).2.1))).spares _
  exact hspares.transaction (timeout id) s hends

theorem changeIf_error {id : String} {f : Record → Bool × Record} {s : Session} {e : Abort}
    (h : (changeIf id f s).1 = .error e) : (changeIf id f s).2.database = s.database := by
  unfold changeIf at h ⊢
  have hsame := changeOne_spares id (withDone f) s
  rcases hend : changeOne id (withDone f) s with ⟨(e' | done), s'⟩ <;> rw [hend] at hsame
  · rw [Script.bind_of_error hend]
    exact hsame nofun
  · rw [Script.bind_of_ok hend] at h
    cases h

theorem log_error {id line : String} {s : Session} {e : Abort}
    (h : (log id line s).1 = .error e) : (log id line s).2.database = s.database := by
  unfold log at h ⊢
  have hsame := changeOne_spares id (addLine line) s
  rcases hend : changeOne id (addLine line) s with ⟨(e' | _ | _), s'⟩ <;> rw [hend] at hsame
  · rw [Script.bind_of_error hend]
    exact hsame nofun
  · rw [Script.bind_of_ok hend]
    exact hsame nofun
  · rw [Script.bind_of_ok hend] at h
    cases h

/-! ### Statements without a transaction -/

theorem query_database (read : Table → Except DatabaseFault α) (s : Session) :
    (query read s).2.database = s.database := by
  unfold query
  split <;> rfl

theorem exec_error {write : Table → Except DatabaseFault Table} {s : Session} {e : Abort}
    (h : (exec write s).1 = .error e) : (exec write s).2.database = s.database := by
  cases hopen : s.pending with
  | some t => exact (quiet_exec write s (by rw [hopen]; rfl)).1
  | none =>
    unfold exec at h ⊢
    rw [hopen] at h ⊢
    cases hfault : s.fault? with
    | some f => rfl
    | none =>
      rw [hfault] at h
      dsimp only at h ⊢
      by_cases hlocked : s.locked = true
      · rw [if_pos hlocked]
        rfl
      · rw [if_neg hlocked] at h ⊢
        cases hwrite : write s.committed with
        | ok t =>
          rw [hwrite] at h
          cases h
        | error f => rfl

/-! ### Calls that fail -/

/-- A call only fails if its statements end without a result. -/
theorem script_of_performAt_error {policy : FailoverPolicy} {clock : Readings} {s : Session}
    {c : Call} {e : Abort} (h : (performAt policy clock s c).1 = .error e) :
    (script policy clock c s).1 = .error e := by
  have hsoft : soften c (script policy clock c s).1 = .error e := h
  cases hend : (script policy clock c s).1 with
  | ok a =>
    rw [hend, soften_ok] at hsoft
    cases hsoft
  | error e' =>
    rw [hend] at hsoft
    obtain hsame | ⟨id, a, -, -, hok⟩ := soften_error c e'
    · exact hsame.symm.trans hsoft
    · rw [hok] at hsoft
      cases hsoft

theorem script_error {policy : FailoverPolicy} {clock : Readings} {s : Session} {c : Call}
    {e : Abort} (h : (script policy clock c s).1 = .error e) :
    (script policy clock c s).2.database = s.database := by
  cases c with
  | create => exact exec_error h
  | list | get => exact query_database _ s
  | requestCancel | change | changeFor => exact changeIf_error h
  | log => exact log_error h
  | claim node =>
    exact transact_error ((quiet_query _).bind fun rs => quiet_offerEach node policy clock rs) h
  | heartbeat node listed timeout =>
    exact transact_error
      ((quiet_query _).bind fun rs => quiet_sweepEach node listed timeout clock rs) h

/-- A call whose statements end without a result leaves the database as it was. It answers so, or
that it found nothing to do if it waited for the write lock in vain. -/
theorem performAt_of_script_error {policy : FailoverPolicy} {clock : Readings} {s : Session}
    {c : Call} {e : Abort} (h : (script policy clock c s).1 = .error e) :
    (performAt policy clock s c).2.database = s.database
      ∧ ((performAt policy clock s c).1 = .error e
        ∨ ∃ id a, e = timeout id ∧ skipped? c = some a ∧ (performAt policy clock s c).1 = .ok a) := by
  have hanswer : (performAt policy clock s c).1 = soften c (.error e) := congrArg (soften c) h
  rw [hanswer]
  exact ⟨script_error h, soften_error c e⟩

theorem put_error {s : Session} {r : Record} {e : Abort} (h : (put s r).1 = .error e) :
    (put s r).2.database = s.database := by
  have hplace : (place r s).2.database = s.database := transact_error (quiet_overwriteOrInsert r) h
  exact hplace

end Session

/-! ### The store -/

variable {d : Database}

theorem performAt_of_error {policy : FailoverPolicy} {clock : Readings} {c : Call} {e : Abort}
    (h : (d.performAt policy clock c).1 = .error e) : (d.performAt policy clock c).2 = d := by
  have hanswer := Session.performAt_eq policy clock d c
  have hend := Session.script_of_performAt_error ((congrArg Prod.fst hanswer).trans h)
  obtain ⟨hsame, -⟩ := Session.performAt_of_script_error hend
  rw [hanswer] at hsame
  exact hsame

theorem put_of_error {r : Record} {e : Abort} (h : (d.put r).1 = .error e) :
    (d.put r).2 = d := by
  have hanswer := Session.put_eq d r
  have hsame := Session.put_error ((congrArg Prod.fst hanswer).trans h)
  rw [hanswer] at hsame
  exact hsame

end Database

namespace Store

open Database

theorem onDatabase_of_error {α : Type} {k : Connection} {d : Database}
    {run : Database → Except Abort α × Database} {e : Abort}
    (hrun : ∀ e, (run d).1 = .error e → (run d).2 = d)
    (h : (onDatabase k d run).1 = .error e) : (onDatabase k d run).2.2 = .database d := by
  unfold onDatabase at h ⊢
  split
  · rfl
  case isFalse hbroken =>
    rw [if_neg hbroken] at h
    rcases hend : run d with ⟨(⟨f⟩ | ⟨o⟩) | a, d'⟩ <;> rw [hend] at h hrun
    · exact congrArg Store.database (hrun _ rfl)
    · exact congrArg Store.database (hrun _ rfl)
    · cases h

/-- **A call of a database that fails leaves every row as it was**, at whatever statement it fails,
among rows that cannot be read and records whose counters overflow, and with or without a lock. That
is so also if it waited for the lock in vain and answers that it found nothing to do. -/
theorem failed_calls_leave_table (policy : FailoverPolicy) (clock : Readings) (d : Database) :
    (∀ faults c e, (Session.script policy clock c (.on d faults)).1 = .error e →
      (Session.performAt policy clock (.on d faults) c).2.database = d
        ∧ ((Session.performAt policy clock (.on d faults) c).1 = .error e
          ∨ ∃ id a, e = Session.timeout id ∧ Session.skipped? c = some a
            ∧ (Session.performAt policy clock (.on d faults) c).1 = .ok a))
    ∧ (∀ faults c e, (Session.performAt policy clock (.on d faults) c).1 = .error e →
        (Session.script policy clock c (.on d faults)).1 = .error e)
    ∧ (∀ faults r e, (Session.put (.on d faults) r).1 = .error e →
        (Session.put (.on d faults) r).2.database = d)
    ∧ (∀ c, Session.performAt policy clock (.on d []) c
        = ((d.performAt policy clock c).1, .on (d.performAt policy clock c).2 []))
    ∧ (∀ r, Session.put (.on d []) r = ((d.put r).1, .on (d.put r).2 []))
    ∧ (∀ now k c e, (call now (.database d) k c).1 = .error e →
        (call now (.database d) k c).2.2 = .database d)
    ∧ ∀ k r e, (put (.database d) k r).1 = .error e →
        (put (.database d) k r).2.2 = .database d := by
  refine ⟨fun faults c e => Session.performAt_of_script_error,
    fun faults c e => Session.script_of_performAt_error, fun faults r e => Session.put_error,
    Session.performAt_eq policy clock d, Session.put_eq d, ?_, ?_⟩
  · intro now k c e h
    unfold call at h ⊢
    split
    · rfl
    case isFalse hfailing =>
      rw [if_neg hfailing] at h
      exact onDatabase_of_error (fun e => Database.performAt_of_error) h
  · intro k r e h
    exact onDatabase_of_error (fun e => Database.put_of_error) h

/-- A claim cancels `t`, which was asked to stop, and then overflows at `u`. Under a lock it does not
come that far and answers that there is nothing to run. -/
theorem failed_calls_leave_table_of_claim :
    let lost : Record := { Record.fresh "t" "noop" none ClockTime.epoch.toInstant with
      status := .failover, cancelRequested := true }
    let full : Record := { Record.fresh "u" "noop" none ClockTime.epoch.toInstant with
      runCount := 4294967295 }
    let t : Table := ⟨[Row.ofRecord lost, Row.ofRecord full], by decide⟩
    let clock : Readings := fun _ => .epoch
    let free : Session := .on ⟨t, false⟩ []
    let locked : Session := .on ⟨t, true⟩ []
    (Session.script {} clock (.claim "a") free).1 = .error (.overflow .counter)
      ∧ ((Session.script {} clock (.claim "a") free).2.pending.map fun t => t.rows.map Row.status)
        = some ["CANCELED", "NEW"]
      ∧ (Session.performAt {} clock free (.claim "a")).2.database = ⟨t, false⟩
      ∧ (Session.script {} clock (.claim "a") locked).1 = .error (Session.timeout "*")
      ∧ (Session.performAt {} clock locked (.claim "a")).2.database = ⟨t, true⟩
      ∧ (Session.performAt {} clock locked (.claim "a")).1 = .ok none := by
  intro lost full t clock free locked
  have hfree : (Session.script {} clock (.claim "a") free).1 = .error (.overflow .counter) := by
    cbv
  have hpending : ((Session.script {} clock (.claim "a") free).2.pending.map
      fun t => t.rows.map Row.status) = some ["CANCELED", "NEW"] := by
    cbv
  have hlocked : (Session.script {} clock (.claim "a") locked).1 = .error (Session.timeout "*") :=
    rfl
  obtain ⟨hfree', -⟩ := (failed_calls_leave_table {} clock ⟨t, false⟩).1 [] (.claim "a") _ hfree
  obtain ⟨hlocked', -⟩ := (failed_calls_leave_table {} clock ⟨t, true⟩).1 [] (.claim "a") _ hlocked
  exact ⟨hfree, hpending, hfree', hlocked, hlocked', rfl⟩

end Store

end TaskCluster
