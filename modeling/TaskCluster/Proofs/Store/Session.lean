import Mathlib
import TaskCluster.Proofs.Store.Budget

/-!
# Calls of a database, statement by statement

`Database` runs the work of a call in one step that takes effect as a whole or not at all. Here the
same calls are spelled out as scripts of statements over a `Session`. A transaction changes a table
of its own, which becomes the committed one with the last statement; a statement outside of
transactions commits at once; and every statement may go wrong with a fault of the database. What a
script has done before it ends without a result is in the session, so that it then leaves the
database alone is a fact about each script and not about the way in which scripts are run.

Without faults a session does what `Database` does (`Session.performAt_eq`, `Session.put_eq`). The
scripts of transactions are compared with their work statement by statement (`Runs`).
-/

namespace TaskCluster

namespace Database

/-! ### Sessions and scripts -/

/-- A connection to a database. -/
structure Session where
  /-- What other connections see. -/
  committed : Table
  /-- The table of the transaction that is open. -/
  pending : Option Table := none
  /-- Does another connection hold the write lock? -/
  locked : Bool := false
  /-- What goes wrong with the next statements, one after the other. -/
  faults : List (Option DatabaseFault) := []

/-- Statements that end with a result or without one, and leave a session behind either way. -/
def Script (α : Type) := Session → Except Abort α × Session

namespace Script

variable {α β : Type}

instance : Monad Script where
  pure a := fun s => (.ok a, s)
  bind x f := fun s =>
    match x s with
    | (.ok a, s) => f a s
    | (.error e, s) => (.error e, s)

/-- Ends in a given way. -/
def endWith (result : Except Abort α) : Script α := fun s => (result, s)

theorem bind_of_ok {x : Script α} {s s' : Session} {a : α} (h : x s = (.ok a, s'))
    (f : α → Script β) : (x >>= f) s = f a s' := by
  change (match x s with
    | (.ok a, s) => f a s
    | (.error e, s) => (.error e, s)) = _
  rw [h]

theorem bind_of_error {x : Script α} {s s' : Session} {e : Abort} (h : x s = (.error e, s'))
    (f : α → Script β) : (x >>= f) s = (.error e, s') := by
  change (match x s with
    | (.ok a, s) => f a s
    | (.error e, s) => (.error e, s)) = _
  rw [h]

end Script

namespace Session

/-- The table that a statement reads. -/
def current (s : Session) : Table := s.pending.getD s.committed

/-- What goes wrong with the next statement. -/
def fault? (s : Session) : Option DatabaseFault := s.faults.head?.join

/-- The session behind the next statement, but for what the statement does. -/
def advanced (s : Session) : Session := { s with faults := s.faults.tail }

/-! ### Statements -/

/-- Begins a transaction. It waits for the write lock in vain if another connection holds it, and
`busy` tells how that ends. -/
def openTransaction (busy : Abort) : Script Unit := fun s =>
  match s.fault? with
  | some .locked => (.error busy, s.advanced)
  | some f => (.error f.abort, s.advanced)
  | none =>
    if s.locked then (.error busy, s.advanced)
    else (.ok (), { s.advanced with pending := some s.committed })

/-- Makes the table of the transaction the committed one. -/
def commit : Script Unit := fun s =>
  match s.fault? with
  | some f => (.error f.abort, s.advanced)
  | none => (.ok (), { s.advanced with committed := s.current, pending := none })

/-- A statement that reads. -/
def query {α : Type} (read : Table → Except DatabaseFault α) : Script α := fun s =>
  match s.fault? with
  | some f => (.error f.abort, s.advanced)
  | none => (orFault (read s.current), s.advanced)

/-- A statement that writes, in the transaction that is open or in one of its own. -/
def exec (write : Table → Except DatabaseFault Table) : Script Unit := fun s =>
  match s.fault?, s.pending with
  | some f, _ => (.error f.abort, s.advanced)
  | none, some t =>
    match write t with
    | .ok t => (.ok (), { s.advanced with pending := some t })
    | .error f => (.error f.abort, s.advanced)
  | none, none =>
    if s.locked then (.error DatabaseFault.locked.abort, s.advanced)
    else
      match write s.committed with
      | .ok t => (.ok (), { s.advanced with committed := t })
      | .error f => (.error f.abort, s.advanced)

/-- The record of an id. -/
def select (id : String) : Script (Option Record) := query fun t =>
  match t.find? id with
  | none => .ok none
  | some row => row.read.map some

/-- The records in one of some statuses, oldest first. -/
def selectIn (statuses : List Status) : Script (List Record) := query fun t =>
  (t.inStatus statuses).mapM Row.read

/-- Is there a row of the id? -/
def has (id : String) : Script Bool := query fun t => .ok (t.find? id).isSome

/-- Writes the columns of a record that may change. -/
def update (r : Record) : Script Unit := exec fun t => .ok (t.update r)

def insert (r : Record) : Script Unit := exec fun t => t.insert (Row.ofRecord r)

/-- Writes the time of creation of a record. -/
def updateCreation (r : Record) : Script Unit := exec fun t =>
  .ok (t.modify r.id fun row => { row with createdAt := Cell.ofTime r.createdAt })

/-! ### Scripts -/

/-- Runs statements in a transaction and commits them. -/
def transact {α : Type} (busy : Abort) (body : Script α) : Script α := do
  openTransaction busy
  let a ← body
  commit
  pure a

/-- How a transaction about a task ends that waits for the write lock in vain. -/
def timeout (id : String) : Abort := .failure (.lockTimeout id)

/-- Changes the record of an id in the transaction that is open; none if it is unknown. Only a
record that changed is written, and only then the transaction is committed. -/
def changeSelected {α : Type} (id : String) (f : Record → Bool × α × Record) :
    Script (Option α) := do
  match ← select id with
  | none => pure none
  | some r =>
    if (f r).1 then do
      update (f r).2.2
      commit
      pure (some (f r).2.1)
    else pure (some (f r).2.1)

/-- The same in a transaction of its own. -/
def changeOne {α : Type} (id : String) (f : Record → Bool × α × Record) : Script (Option α) := do
  openTransaction (timeout id)
  changeSelected id f

/-- A change with whether it was made. -/
def withDone (f : Record → Bool × Record) (r : Record) : Bool × Bool × Record := ((f r).1, f r)

/-- Changes the record of an id and answers whether that was done. -/
def changeIf (id : String) (f : Record → Bool × Record) : Script Bool := do
  let done ← changeOne id (withDone f)
  pure (done.getD false)

/-- The change that adds a line to the log of a record. -/
def addLine (line : String) (r : Record) : Bool × Unit × Record :=
  ((r.appendLog line).log != r.log, (), r.appendLog line)

/-- How adding a line ends, by whether there was a record to add it to. -/
def lineAdded (id : String) : Option Unit → Except Abort Unit
  | some () => .ok ()
  | none => .error (.failure (.taskNotFound id))

def log (id line : String) : Script Unit := do
  Script.endWith (lineAdded id (← changeOne id (addLine line)))

/-- Offers records to a node, one after the other, and writes what becomes of them, until it takes
one. -/
def offerEach (node : String) (policy : FailoverPolicy) (clock : Readings) :
    List Record → Script (Option Record)
  | [] => pure none
  | r :: rs =>
    match r.offer node policy (clock r.id).toInstant with
    | .passed => offerEach node policy clock rs
    | .canceled new => do
      update new
      offerEach node policy clock rs
    | .taken new => do
      update new
      pure (some new)
    | .overflowed _ => Script.endWith (.error (.overflow .counter))

def claim (node : String) (policy : FailoverPolicy) (clock : Readings) : Script (Option Record) :=
  transact (timeout "*") do
    offerEach node policy clock (← selectIn [.new, .failover])

/-- Checks records, one after the other, and writes those that are not left alone. -/
def sweepEach (node : String) (listed : List String) (timeout : Duration) (clock : Readings) :
    List Record → Script Unit
  | [] => pure ()
  | r :: rs =>
    match r.checkHeartbeat node listed timeout (clock r.id).toInstant with
    | (.untouched, _) => sweepEach node listed timeout clock rs
    | (_, new) => do
      update new
      sweepEach node listed timeout clock rs

def heartbeat (node : String) (listed : List String) (timeout : Duration) (clock : Readings) :
    Script Unit :=
  transact (Session.timeout "*") do
    sweepEach node listed timeout clock (← selectIn [.running])

/-- Writes a record over the one of its id, or adds it. -/
def overwriteOrInsert (r : Record) : Script Unit := do
  if ← has r.id then do
    update r
    updateCreation r
  else insert r

def place (r : Record) : Script Unit :=
  transact DatabaseFault.locked.abort (overwriteOrInsert r)

/-- The statements of a call. -/
def script (policy : FailoverPolicy) (clock : Readings) : (c : Call) → Script c.Result
  | .create id taskType config =>
    insert (Record.fresh id taskType config (clock id).toInstant)
  | .list l => query fun t => (t.select l).mapM Row.read
  | .get id => select id
  | .requestCancel id => changeIf id Record.requestCancel
  | .change id status message =>
    changeIf id fun r => r.changeStatus status message (clock id).toInstant
  | .changeFor id c status message =>
    changeIf id fun r => r.changeStatusFor c status message (clock id).toInstant
  | .log id line => log id line
  | .claim node => claim node policy clock
  | .heartbeat node ids timeout => heartbeat node ids timeout clock

/-- Runs a script. What it has not committed is dropped when it ends. -/
def attempt {α : Type} (x : Script α) (s : Session) : Except Abort α × Session :=
  ((x s).1, { (x s).2 with pending := none })

/-- The answer of a call that can be left out for once: it has found nothing to do. -/
def skipped? : (c : Call) → Option c.Result
  | .requestCancel _ => some false
  | .claim _ => some none
  | .heartbeat .. => some ()
  | _ => none

/-- What a call answers when its script has ended. One that can be left out for once does not fail
if it waited for the write lock in vain. -/
def soften (c : Call) : Except Abort c.Result → Except Abort c.Result
  | .error (.failure (.lockTimeout id)) =>
    match skipped? c with
    | some a => .ok a
    | none => .error (.failure (.lockTimeout id))
  | result => result

/-- Answers a call. -/
def performAt (policy : FailoverPolicy) (clock : Readings) (s : Session) (c : Call) :
    Except Abort c.Result × Session :=
  let (result, s) := attempt (script policy clock c) s
  (soften c result, s)

/-- Stores a record as it is. -/
def put (s : Session) (r : Record) : Except Abort Unit × Session := attempt (place r) s

/-- A connection to a database on which no transaction is open. -/
def on (d : Database) (faults : List (Option DatabaseFault)) : Session where
  committed := d.table
  locked := d.locked
  faults := faults

/-! ### Scripts without faults -/

/-- In a transaction and without faults, a script does to the table of the transaction what some
work does to a table. -/
structure Runs {α : Type} (x : Script α) (work : Transaction α) : Prop where
  ok : ∀ {c t l a t'}, work t = .ok (a, t') →
    x ⟨c, some t, l, []⟩ = (.ok a, ⟨c, some t', l, []⟩)
  error : ∀ {c t l e}, work t = .error e →
    ∃ t', x ⟨c, some t, l, []⟩ = (.error e, ⟨c, some t', l, []⟩)

section Runs

variable {α β : Type}

theorem runs_pure (a : α) : Runs (pure a) fun t => .ok (a, t) where
  ok := by
    intro c t l a' t' h
    obtain ⟨rfl, rfl⟩ := Prod.mk.inj (Except.ok.inj h)
    rfl
  error := nofun

theorem runs_error (e : Abort) : Runs (Script.endWith (.error e) : Script α) fun _ => .error e where
  ok := nofun
  error := by
    intro c t l e' h
    obtain rfl := Except.error.inj h
    exact ⟨t, rfl⟩

theorem Runs.bind {x : Script α} {work : Transaction α} {f : α → Script β}
    {rest : α → Transaction β} (hx : Runs x work) (hf : ∀ a, Runs (f a) (rest a)) :
    Runs (x >>= f) fun t => work t >>= fun p => rest p.1 p.2 where
  ok := by
    intro c t l b t' h
    obtain ⟨⟨a, t₁⟩, hwork, hrest⟩ := bind_eq_ok_iff.mp h
    rw [Script.bind_of_ok (hx.ok hwork)]
    exact (hf a).ok hrest
  error := by
    intro c t l e h
    rcases bind_eq_error_iff.mp h with hwork | ⟨⟨a, t₁⟩, hwork, hrest⟩
    · obtain ⟨t', hend⟩ := hx.error hwork
      exact ⟨t', Script.bind_of_error hend f⟩
    · rw [Script.bind_of_ok (hx.ok hwork)]
      exact (hf a).error hrest

theorem runs_query (read : Table → Except DatabaseFault α) :
    Runs (query read) fun t => orFault (read t) >>= fun a => .ok (a, t) where
  ok := by
    intro c t l a t' h
    obtain ⟨a', hread, hend⟩ := bind_eq_ok_iff.mp h
    obtain ⟨rfl, rfl⟩ := Prod.mk.inj (Except.ok.inj hend)
    exact congrArg (fun result => (result, (⟨c, some t, l, []⟩ : Session))) hread
  error := by
    intro c t l e h
    rcases bind_eq_error_iff.mp h with hread | ⟨a, -, hend⟩
    · exact ⟨t, congrArg (fun result => (result, (⟨c, some t, l, []⟩ : Session))) hread⟩
    · cases hend

theorem exec_pending (write : Table → Except DatabaseFault Table) (c t : Table) (l : Bool) :
    exec write ⟨c, some t, l, []⟩
      = match write t with
        | .ok t' => (.ok (), ⟨c, some t', l, []⟩)
        | .error f => (.error f.abort, ⟨c, some t, l, []⟩) := rfl

theorem runs_exec (write : Table → Except DatabaseFault Table) :
    Runs (exec write) fun t => orFault (write t) >>= fun t' => .ok ((), t') where
  ok := by
    intro c t l a t' h
    obtain ⟨t₁, hwrite, hend⟩ := bind_eq_ok_iff.mp h
    obtain ⟨-, rfl⟩ := Prod.mk.inj (Except.ok.inj hend)
    rw [exec_pending, orFault_eq_ok_iff.mp hwrite]
  error := by
    intro c t l e h
    rcases bind_eq_error_iff.mp h with hwrite | ⟨t', -, hend⟩
    · obtain ⟨fault, hfault, rfl⟩ := orFault_eq_error_iff.mp hwrite
      rw [exec_pending, hfault]
      exact ⟨t, rfl⟩
    · cases hend

theorem runs_update (r : Record) : Runs (update r) fun t => .ok ((), t.update r) :=
  runs_exec fun t => .ok (t.update r)

theorem runs_offerEach (node : String) (policy : FailoverPolicy) (clock : Readings)
    (rs : List Record) :
    Runs (offerEach node policy clock rs) (Transaction.offerAll node policy clock rs) := by
  induction rs with
  | nil => exact runs_pure none
  | cons r rs ih =>
    have hwork : Transaction.offerAll node policy clock (r :: rs)
        = match r.offer node policy (clock r.id).toInstant with
          | .passed => Transaction.offerAll node policy clock rs
          | .canceled new => fun t => Transaction.offerAll node policy clock rs (t.update new)
          | .taken new => fun t => .ok (some new, t.update new)
          | .overflowed _ => fun _ => .error (.overflow .counter) := by
      funext t
      rw [Transaction.offerAll]
      cases r.offer node policy (clock r.id).toInstant <;> rfl
    rw [hwork, offerEach]
    cases r.offer node policy (clock r.id).toInstant with
    | passed => exact ih
    | canceled new => exact (runs_update new).bind fun _ => ih
    | taken new => exact (runs_update new).bind fun _ => runs_pure (some new)
    | overflowed new => exact runs_error (.overflow .counter)

theorem runs_sweepEach (node : String) (listed : List String) (timeout : Duration)
    (clock : Readings) (rs : List Record) :
    Runs (sweepEach node listed timeout clock rs) fun t =>
      .ok ((), rs.foldl (Transaction.sweepOne node listed timeout clock) t) := by
  induction rs with
  | nil => exact runs_pure ()
  | cons r rs ih =>
    simp only [sweepEach, List.foldl_cons, Transaction.sweepOne]
    obtain ⟨what, new⟩ := r.checkHeartbeat node listed timeout (clock r.id).toInstant
    cases what with
    | untouched => exact ih
    | _ => exact (runs_update new).bind fun _ => ih

end Runs

/-- Without faults and with no transaction open, a script does to a database what the database does
itself with some work. -/
structure Does {α : Type} (x : Script α) (busy : Except Abort α) (work : Transaction α) :
    Prop where
  locked : ∀ t, attempt x (on ⟨t, true⟩ []) = (busy, on ⟨t, true⟩ [])
  ok : ∀ {t a t'}, work t = .ok (a, t') →
    attempt x (on ⟨t, false⟩ []) = (.ok a, on ⟨t', false⟩ [])
  error : ∀ {t e}, work t = .error e →
    attempt x (on ⟨t, false⟩ []) = (.error e, on ⟨t, false⟩ [])

section Does

variable {α β : Type}

theorem Does.attempt_eq {x : Script α} {busy : Except Abort α} {work : Transaction α}
    (h : Does x busy work) (d : Database) :
    attempt x (on d []) = ((d.write busy work).1, on (d.write busy work).2 []) := by
  obtain ⟨t, locked⟩ := d
  cases locked with
  | true => exact h.locked t
  | false =>
    cases hwork : work t with
    | ok result => rw [h.ok hwork, Database.write_ok hwork]
    | error e => rw [h.error hwork, Database.write_error hwork]

theorem attempt_of_ends {x : Script α} {s s' : Session} {result : Except Abort α}
    (h : x s = (result, s')) : attempt x s = (result, { s' with pending := none }) := by
  rw [attempt, h]

theorem openTransaction_unlocked (busy : Abort) (t : Table) :
    openTransaction busy (on ⟨t, false⟩ []) = (.ok (), ⟨t, some t, false, []⟩) := rfl

theorem Runs.transact {body : Script α} {work : Transaction α} (h : Runs body work)
    (busy : Abort) : Does (transact busy body) (.error busy) work where
  locked _ := rfl
  ok := by
    intro t a t' hwork
    have hend : Session.transact busy body (on ⟨t, false⟩ []) = (.ok a, ⟨t', none, false, []⟩) := by
      unfold Session.transact
      rw [Script.bind_of_ok (openTransaction_unlocked busy t), Script.bind_of_ok (h.ok hwork)]
      rfl
    exact attempt_of_ends hend
  error := by
    intro t e hwork
    obtain ⟨t', hbody⟩ := h.error hwork
    have hend : Session.transact busy body (on ⟨t, false⟩ [])
        = (.error e, ⟨t, some t', false, []⟩) := by
      unfold Session.transact
      rw [Script.bind_of_ok (openTransaction_unlocked busy t), Script.bind_of_error hbody]
    exact attempt_of_ends hend

theorem does_insert (r : Record) :
    Does (insert r) (.error DatabaseFault.locked.abort) (Transaction.insert r) := by
  have hexec : ∀ t, insert r (on ⟨t, false⟩ [])
      = match t.insert (Row.ofRecord r) with
        | .ok t' => (.ok (), on ⟨t', false⟩ [])
        | .error f => (.error f.abort, on ⟨t, false⟩ []) := fun t => rfl
  refine ⟨fun t => rfl, ?_, ?_⟩
  · intro t a t' hwork
    obtain ⟨t₁, hrow, hend⟩ := bind_eq_ok_iff.mp hwork
    obtain ⟨-, rfl⟩ := Prod.mk.inj (Except.ok.inj hend)
    rw [attempt, hexec, orFault_eq_ok_iff.mp hrow]
    rfl
  · intro t e hwork
    rcases bind_eq_error_iff.mp hwork with hrow | ⟨t', -, hend⟩
    · obtain ⟨fault, hfault, rfl⟩ := orFault_eq_error_iff.mp hrow
      rw [attempt, hexec, hfault]
      rfl
    · cases hend

theorem select_eq (id : String) (c : Table) (p : Option Table) (l : Bool) :
    select id ⟨c, p, l, []⟩ = (Database.get ⟨p.getD c, l⟩ id, ⟨c, p, l, []⟩) := by
  have hselect : select id ⟨c, p, l, []⟩
      = (orFault (match (p.getD c).find? id with
          | none => .ok none
          | some row => row.read.map some), ⟨c, p, l, []⟩) := rfl
  rw [hselect, Database.get]
  cases (p.getD c).find? id <;> rfl

theorem changeOne_eq (id : String) (f : Record → Bool × α × Record) (t : Table) :
    changeOne id f (on ⟨t, false⟩ [])
      = match Database.get ⟨t, false⟩ id with
        | .error e => (.error e, ⟨t, some t, false, []⟩)
        | .ok none => (.ok none, ⟨t, some t, false, []⟩)
        | .ok (some r) =>
          if (f r).1 then (.ok (some (f r).2.1), ⟨t.update (f r).2.2, none, false, []⟩)
          else (.ok (some (f r).2.1), ⟨t, some t, false, []⟩) := by
  have hselect := select_eq id t (some t) false
  rw [Option.getD_some] at hselect
  unfold changeOne
  rw [Script.bind_of_ok (openTransaction_unlocked (timeout id) t)]
  unfold changeSelected
  cases hget : Database.get ⟨t, false⟩ id with
  | error e =>
    rw [hget] at hselect
    exact Script.bind_of_error hselect _
  | ok r? =>
    rw [hget] at hselect
    rw [Script.bind_of_ok hselect]
    cases r? with
    | none => rfl
    | some r =>
      have hupdate : update (f r).2.2 ⟨t, some t, false, []⟩
          = (.ok (), ⟨t, some (t.update (f r).2.2), false, []⟩) := rfl
      dsimp only
      split
      · exact Script.bind_of_ok hupdate _
      · rfl

theorem change_eq (id : String) (f : Record → Bool × α × Record) (t : Table) (l : Bool) :
    Transaction.change id f t
      = Database.get ⟨t, l⟩ id >>= fun r? =>
        match r? with
        | none => .ok (none, t)
        | some r => .ok (some (f r).2.1, if (f r).1 then t.update (f r).2.2 else t) := by
  unfold Transaction.change Database.get
  cases t.find? id with
  | none => rfl
  | some row =>
    dsimp only
    cases row.read <;> rfl

theorem does_changeOne (id : String) (f : Record → Bool × α × Record) :
    Does (changeOne id f) (.error (timeout id)) (Transaction.change id f) where
  locked _ := rfl
  ok := by
    intro t a t' hwork
    rw [change_eq id f t false] at hwork
    rw [attempt, changeOne_eq]
    obtain ⟨r?, hget, hend⟩ := bind_eq_ok_iff.mp hwork
    rw [hget]
    cases r? with
    | none =>
      obtain ⟨rfl, rfl⟩ := Prod.mk.inj (Except.ok.inj hend)
      rfl
    | some r =>
      obtain ⟨rfl, rfl⟩ := Prod.mk.inj (Except.ok.inj hend)
      dsimp only
      split <;> rfl
  error := by
    intro t e hwork
    rw [change_eq id f t false] at hwork
    rw [attempt, changeOne_eq]
    rcases bind_eq_error_iff.mp hwork with hget | ⟨r?, -, hend⟩
    · rw [hget]
      rfl
    · cases r? <;> cases hend

/-- A script may turn its result into an end without one, if it has changed nothing then. -/
theorem Does.endWith {x : Script α} {busy : Abort} {work : Transaction α}
    (h : Does x (.error busy) work) (result : α → Except Abort β)
    (hsame : ∀ t a t' e, work t = .ok (a, t') → result a = .error e → t' = t) :
    Does (x >>= fun a => Script.endWith (result a)) (.error busy)
      fun t => work t >>= fun p => result p.1 >>= fun b => .ok (b, p.2) := by
  have hattempt : ∀ s, attempt (x >>= fun a => Script.endWith (result a)) s
      = ((attempt x s).1 >>= result, (attempt x s).2) := by
    intro s
    unfold attempt
    rcases hx : x s with ⟨(e | a), s'⟩
    · rw [Script.bind_of_error hx]
      rfl
    · rw [Script.bind_of_ok hx]
      rfl
  refine ⟨fun t => ?_, ?_, ?_⟩
  · rw [hattempt, h.locked]
    rfl
  · intro t b t' hwork
    obtain ⟨⟨a, t₁⟩, hok, hrest⟩ := bind_eq_ok_iff.mp hwork
    obtain ⟨b', hresult, hend⟩ := bind_eq_ok_iff.mp hrest
    obtain ⟨rfl, rfl⟩ := Prod.mk.inj (Except.ok.inj hend)
    rw [hattempt, h.ok hok]
    exact congrArg (fun answer => (answer, on ⟨t₁, false⟩ [])) hresult
  · intro t e hwork
    rcases bind_eq_error_iff.mp hwork with herror | ⟨⟨a, t₁⟩, hok, hrest⟩
    · rw [hattempt, h.error herror]
      rfl
    · rcases bind_eq_error_iff.mp hrest with hresult | ⟨b, -, hend⟩
      · obtain rfl := hsame t a t₁ e hok hresult
        rw [hattempt, h.ok hok]
        exact congrArg (fun answer => (answer, on ⟨t₁, false⟩ [])) hresult
      · cases hend

theorem does_changeIf (id : String) (f : Record → Bool × Record) :
    Does (changeIf id f) (.error (timeout id)) (Transaction.changeIf id f) :=
  (does_changeOne id (withDone f)).endWith (fun done => .ok (done.getD false)) nofun

theorem does_log (id line : String) :
    Does (log id line) (.error (timeout id)) (Transaction.log id line) := by
  have hwork : Transaction.log id line = fun t =>
      Transaction.change id (addLine line) t >>= fun p =>
        lineAdded id p.1 >>= fun b => .ok (b, p.2) := by
    funext t
    unfold Transaction.log
    refine congrArg (Transaction.change id (addLine line) t >>= ·) (funext fun p => ?_)
    obtain ⟨_ | _, t'⟩ := p <;> rfl
  rw [hwork]
  refine (does_changeOne id (addLine line)).endWith (lineAdded id) ?_
  intro t a t' e hchange hend
  cases a with
  | some => cases hend
  | none =>
    rw [change_eq id (addLine line) t false] at hchange
    obtain ⟨r?, -, hresult⟩ := bind_eq_ok_iff.mp hchange
    cases r? with
    | none => exact (Prod.mk.inj (Except.ok.inj hresult)).2.symm
    | some r => cases hresult

theorem does_claim (node : String) (policy : FailoverPolicy) (clock : Readings) :
    Does (claim node policy clock) (.error (timeout "*"))
      (Transaction.claim node policy clock) := by
  have hwork : Transaction.claim node policy clock = fun t =>
      (orFault ((t.inStatus [.new, .failover]).mapM Row.read) >>= fun rs => .ok (rs, t))
        >>= fun p => Transaction.offerAll node policy clock p.1 p.2 := by
    funext t
    unfold Transaction.claim Transaction.records
    cases (t.inStatus [.new, .failover]).mapM Row.read <;> rfl
  rw [hwork]
  exact ((runs_query _).bind fun rs => runs_offerEach node policy clock rs).transact _

theorem does_heartbeat (node : String) (listed : List String) (timeout : Duration)
    (clock : Readings) :
    Does (heartbeat node listed timeout clock) (.error (Session.timeout "*"))
      (Transaction.heartbeat node listed timeout clock) := by
  have hwork : Transaction.heartbeat node listed timeout clock = fun t =>
      (orFault ((t.inStatus [.running]).mapM Row.read) >>= fun rs => .ok (rs, t))
        >>= fun p => .ok ((), p.1.foldl (Transaction.sweepOne node listed timeout clock) p.2) := by
    funext t
    unfold Transaction.heartbeat Transaction.records
    cases (t.inStatus [.running]).mapM Row.read <;> rfl
  rw [hwork]
  exact ((runs_query _).bind fun rs => runs_sweepEach node listed timeout clock rs).transact _

theorem runs_overwrite (r : Record) :
    Runs (update r >>= fun _ => updateCreation r) fun t =>
      .ok ((), (t.update r).modify r.id fun row =>
        { row with createdAt := Cell.ofTime r.createdAt }) :=
  (runs_update r).bind fun _ => runs_exec _

/-- Whether a record is written over another or added is only known once the table was read. -/
theorem runs_overwriteOrInsert (r : Record) : Runs (overwriteOrInsert r) (Transaction.put r) := by
  have hhas : ∀ c t l, overwriteOrInsert r ⟨c, some t, l, []⟩
      = (if (t.find? r.id).isSome then update r >>= fun _ => updateCreation r else insert r)
        ⟨c, some t, l, []⟩ := fun c t l => rfl
  have hinsert : Runs (insert r) (Transaction.insert r) :=
    runs_exec fun t => t.insert (Row.ofRecord r)
  refine ⟨?_, ?_⟩
  · intro c t l a t' hput
    rw [hhas]
    unfold Transaction.put at hput
    cases hrow : t.find? r.id with
    | none =>
      rw [hrow] at hput
      exact hinsert.ok hput
    | some row =>
      rw [hrow] at hput
      exact (runs_overwrite r).ok hput
  · intro c t l e hput
    rw [hhas]
    unfold Transaction.put at hput
    cases hrow : t.find? r.id with
    | none =>
      rw [hrow] at hput
      exact hinsert.error hput
    | some row =>
      rw [hrow] at hput
      cases hput

theorem does_place (r : Record) :
    Does (place r) (.error DatabaseFault.locked.abort) (Transaction.put r) :=
  (runs_overwriteOrInsert r).transact _

/-! ### Calls without faults -/

theorem soften_ok (c : Call) (a : c.Result) : soften c (.ok a) = .ok a := rfl

theorem soften_error (c : Call) (e : Abort) :
    soften c (.error e) = .error e
      ∨ ∃ id a, e = timeout id ∧ skipped? c = some a ∧ soften c (.error e) = .ok a := by
  unfold soften
  split
  case h_1 id herror =>
    obtain rfl := Except.error.inj herror
    cases hskip : skipped? c with
    | none => exact .inl rfl
    | some a => exact .inr ⟨id, a, rfl, rfl, rfl⟩
  case h_2 => exact .inl rfl

theorem soften_of_not_skipped (c : Call) (h : skipped? c = none) (result : Except Abort c.Result) :
    soften c result = result := by
  cases result with
  | ok a => exact soften_ok c a
  | error e =>
    obtain hsame | ⟨id, a, -, hskip, -⟩ := soften_error c e
    · exact hsame
    · rw [h] at hskip
      cases hskip

theorem soften_fault (c : Call) {e : Abort} (h : ∃ fault : DatabaseFault, e = fault.abort) :
    soften c (.error e) = .error e := by
  obtain ⟨fault, rfl⟩ := h
  rfl

theorem performAt_of_does (policy : FailoverPolicy) (clock : Readings) (c : Call) {busy : Abort}
    {work : Transaction c.Result} (h : Does (script policy clock c) (.error busy) work)
    (hsoft : ∀ t e, work t = .error e → soften c (.error e) = .error e) (d : Database) :
    performAt policy clock (on d []) c
      = ((d.write (soften c (.error busy)) work).1,
          on (d.write (soften c (.error busy)) work).2 []) := by
  rw [performAt, h.attempt_eq]
  obtain ⟨t, locked⟩ := d
  cases locked with
  | true => rfl
  | false =>
    cases hwork : work t with
    | ok result =>
      rw [Database.write_ok hwork, Database.write_ok hwork]
      exact congrArg (fun answer => (answer, on ⟨result.2, false⟩ [])) (soften_ok c result.1)
    | error e =>
      rw [Database.write_error hwork, Database.write_error hwork]
      exact congrArg (fun answer => (answer, on ⟨t, false⟩ [])) (hsoft t e hwork)

/-- **Without faults the statements of a call do what the database does in one step.** -/
theorem performAt_eq (policy : FailoverPolicy) (clock : Readings) (d : Database) (c : Call) :
    performAt policy clock (on d []) c
      = ((d.performAt policy clock c).1, on (d.performAt policy clock c).2 []) := by
  cases c with
  | create id taskType config =>
    exact performAt_of_does policy clock (.create id taskType config) (does_insert _)
      (fun t e _ => soften_of_not_skipped _ rfl _) d
  | list l =>
    exact congrArg (fun answer => (answer, on d [])) (soften_of_not_skipped (.list l) rfl (d.list l))
  | get id =>
    have hget : attempt (script policy clock (.get id)) (on d []) = (d.get id, on d []) :=
      attempt_of_ends (select_eq id d.table none d.locked)
    rw [performAt, hget]
    exact congrArg (fun answer => (answer, on d [])) (soften_of_not_skipped (.get id) rfl (d.get id))
  | requestCancel id =>
    exact performAt_of_does policy clock (.requestCancel id) (does_changeIf id _)
      (fun t e h => soften_fault _ (Transaction.fault_of_changeIf h)) d
  | change id status message =>
    exact performAt_of_does policy clock (.change id status message) (does_changeIf id _)
      (fun t e _ => soften_of_not_skipped _ rfl _) d
  | changeFor id claim status message =>
    exact performAt_of_does policy clock (.changeFor id claim status message) (does_changeIf id _)
      (fun t e _ => soften_of_not_skipped _ rfl _) d
  | log id line =>
    exact performAt_of_does policy clock (.log id line) (does_log id line)
      (fun t e _ => soften_of_not_skipped _ rfl _) d
  | claim node =>
    refine performAt_of_does policy clock (.claim node) (does_claim node policy clock)
      (fun t e h => ?_) d
    rcases Transaction.fault_or_overflow_of_claim h with hfault | ⟨rfl, -⟩
    · exact soften_fault _ hfault
    · rfl
  | heartbeat node listed timeout =>
    exact performAt_of_does policy clock (.heartbeat node listed timeout)
      (does_heartbeat node listed timeout clock)
      (fun t e h => soften_fault _ (Transaction.fault_of_heartbeat h)) d

theorem put_eq (d : Database) (r : Record) :
    put (on d []) r = ((d.put r).1, on (d.put r).2 []) :=
  (does_place r).attempt_eq d

end Does

end Session

end Database

end TaskCluster
