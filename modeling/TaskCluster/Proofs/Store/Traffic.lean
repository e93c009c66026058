import Mathlib
import TaskCluster.Proofs.Store.Agreement
import TaskCluster.Store.Basic

/-!
# Traffic on a store

Many nodes call one store at the same time. A database answers one call after the other. A memory
locks one record at a time, so a claim and a heartbeat are under way for a while: they take a
snapshot of the ids and then look at one record after the other, and anything may happen between
two looks. `Traffic` is a store with the calls that are under way, and an `Event` is what happens
next, in any order.

Either kind of store shows the records of a memory (`Store.Shows`), and every event shows there as
nothing, as one call, or as one look at a record (`Shown`). What is said about the records after any
traffic is said about these few forms.
-/

namespace TaskCluster

/-! ### Events -/

/-- A call of a memory that is under way, with the ids that it has still to look at. -/
inductive Underway where
  | claim (node : String) (ids : List String)
  | heartbeat (node : String) (listed : List String) (timeout : Duration) (ids : List String)

/-- A store with the calls that are under way. -/
structure Traffic where
  store : Store
  underway : List Underway := []

namespace Traffic

/-- What happens next. -/
inductive Event where
  /-- A node calls the store, under its own policy. -/
  | call (policy : FailoverPolicy) (clock : Readings) (c : Call)
  /-- The `n`-th call that is under way looks at its next record, or ends behind the last one. -/
  | look (policy : FailoverPolicy) (now : ClockTime) (n : Nat)
  /-- The `n`-th call that is under way waited for the lock of its next record in vain. -/
  | skip (n : Nat)
  /-- Another connection takes the write lock of the database, or gives it back. -/
  | lock (locked : Bool)

/-- The call that an event begins. -/
def Event.call? : Event → Option Call
  | .call _ _ c => some c
  | _ => none

/-- The id that an event creates. -/
def Event.created? (e : Event) : Option String := e.call?.bind Call.created?

/-- A look of a call that is under way: the answer if it ends, and what is left of it if not. -/
def lookAt (policy : FailoverPolicy) (now : Instant) (m : Memory) :
    Underway → Option Answer × Option Underway × Memory
  | .claim node [] => (some ⟨.claim node, .ok none⟩, none, m)
  | .claim node (id :: ids) =>
    match m.scanOne node policy now id with
    | (none, m) => (none, some (.claim node ids), m)
    | (some result, m) => (some ⟨.claim node, result.map some⟩, none, m)
  | .heartbeat node listed timeout [] => (some ⟨.heartbeat node listed timeout, .ok ()⟩, none, m)
  | .heartbeat node listed timeout (id :: ids) =>
    (none, some (.heartbeat node listed timeout ids), m.sweepOne node listed timeout now id)

/-- What is left of a call that skips a record. -/
def Underway.skipped : Underway → Underway
  | .claim node ids => .claim node ids.tail
  | .heartbeat node listed timeout ids => .heartbeat node listed timeout ids.tail

/-- Replaces the `n`-th call that is under way by what is left of it. -/
def proceed (calls : List Underway) (n : Nat) : Option Underway → List Underway
  | some rest => calls.set n rest
  | none => calls.eraseIdx n

/-- What an event does, with the answer of the call that it ends, if it ends one. -/
def step (s : Traffic) : Event → Option Answer × Traffic
  | .call policy clock c =>
    match s.store with
    | .memory m =>
      match c with
      | .claim node => (none, { s with underway := s.underway ++ [.claim node m.snapshot] })
      | .heartbeat node listed timeout =>
        (none, { s with underway := s.underway ++ [.heartbeat node listed timeout m.snapshot] })
      | c =>
        let (result, m) := m.performAt policy clock c
        (some ⟨c, result⟩, { s with store := .memory m })
    | .database d =>
      let (result, d) := d.performAt policy clock c
      (some ⟨c, result⟩, { s with store := .database d })
  | .look policy now n =>
    match s.store, s.underway[n]? with
    | .memory m, some call =>
      let (answer, rest, m) := lookAt policy now.toInstant m call
      (answer, ⟨.memory m, proceed s.underway n rest⟩)
    | _, _ => (none, s)
  | .skip n =>
    match s.underway[n]? with
    | some call => (none, { s with underway := s.underway.set n (Underway.skipped call) })
    | none => (none, s)
  | .lock locked => (none, { s with store := s.store.setLock locked })

end Traffic

/-! ### The records that a store shows -/

/-- The record of an id, if there is one that can be read. -/
def Store.record? (s : Store) (id : String) : Option Record :=
  match s with
  | .memory m => m.get? id
  | .database d => (d.get id).toOption.join

/-- The store shows the records of a memory. -/
inductive Store.Shows : Store → Memory → Prop where
  | memory {m : Memory} (counted : m.Counted) : Shows (.memory m) m
  | database {m : Memory} {t : Table} (locked : Bool) (agrees : Agrees m t) :
    Shows (.database ⟨t, locked⟩) m

namespace Store.Shows

variable {s : Store} {m : Memory}

theorem counted (h : s.Shows m) : m.Counted := by
  cases h with
  | memory hm => exact hm
  | database locked hagrees => exact hagrees.counted

theorem record?_eq (h : s.Shows m) (id : String) : s.record? id = m.get? id := by
  cases h with
  | memory hm => rfl
  | database locked hagrees =>
    have hget : Database.get ⟨_, locked⟩ id = .ok (m.get? id) := hagrees.get id
    dsimp only [record?]
    rw [hget]
    rfl

theorem setLock (h : s.Shows m) (locked : Bool) : (s.setLock locked).Shows m := by
  cases h with
  | memory hm => exact .memory hm
  | database _ hagrees => exact .database locked hagrees

end Store.Shows

/-! ### How events show -/

/-- Does an answer hand out a run, or accept a report about one? -/
def Answer.grants : Answer → Bool
  | ⟨.claim _, .ok (some _)⟩ => true
  | ⟨.changeFor .., .ok true⟩ => true
  | _ => false

/-- A change to a run by hand: it begins a run that no claim counts. -/
def Call.startsByHand : Call → Bool
  | .change _ .running _ => true
  | _ => false

/-- How an event shows in the records, with the answer of the call that it ends. -/
inductive Shown (m : Memory) : Option Answer → Memory → Prop where
  /-- Nothing shows, and if a call ends it grants nothing. -/
  | nothing {answer : Option Answer} (h : ∀ a ∈ answer, a.grants = false) : Shown m answer m
  | call (policy : FailoverPolicy) (clock : Readings) (c : Call) (hhand : c.startsByHand = false)
    (hfresh : ∀ id ∈ c.created?, m.get? id = none) :
    Shown m (some ⟨c, (m.performAt policy clock c).1⟩) (m.performAt policy clock c).2
  | offered (node : String) (policy : FailoverPolicy) (now : Instant) (id : String) :
    Shown m ((m.scanOne node policy now id).1.map fun result => ⟨.claim node, result.map some⟩)
      (m.scanOne node policy now id).2
  | checked (node : String) (listed : List String) (timeout : Duration) (now : Instant)
    (id : String) : Shown m none (m.sweepOne node listed timeout now id)

theorem Shown.counted {m m' : Memory} {answer : Option Answer} (h : Shown m answer m')
    (hm : m.Counted) : m'.Counted := by
  cases h with
  | nothing => exact hm
  | call policy clock c => exact Memory.counted_performAt policy clock hm c
  | offered node policy now id => exact Memory.counted_scanOne node policy hm now id
  | checked node listed timeout now id => exact Memory.counted_sweepOne hm now id

namespace Traffic

variable {s : Traffic} {m : Memory}

/-- A look of a call that is under way shows as a look at one record. -/
theorem shown_lookAt (policy : FailoverPolicy) (now : Instant) (m : Memory) (call : Underway) :
    Shown m (lookAt policy now m call).1 (lookAt policy now m call).2.2 := by
  cases call with
  | claim node ids =>
    cases ids with
    | nil => exact .nothing (by rintro a ⟨⟩; rfl)
    | cons id ids =>
      have hlook := Shown.offered (m := m) node policy now id
      rw [lookAt]
      split
      case h_1 heq =>
        rw [heq] at hlook
        exact hlook
      case h_2 heq =>
        rw [heq] at hlook
        exact hlook
  | heartbeat node listed timeout ids =>
    cases ids with
    | nil => exact .nothing (by rintro a ⟨⟩; rfl)
    | cons id ids => exact .checked node listed timeout now id

/-- A look creates nothing. -/
theorem get?_lookAt_eq_none (policy : FailoverPolicy) (now : Instant) {m : Memory}
    (call : Underway) {id : String} (h : m.get? id = none) :
    (lookAt policy now m call).2.2.get? id = none := by
  cases call with
  | claim node ids =>
    cases ids with
    | nil => exact h
    | cons target ids =>
      have hlook : (m.scanOne node policy now target).2.get? id = none := by
        rw [Memory.get?_scanOne, h]
        rfl
      rw [lookAt]
      split
      case h_1 heq => rwa [heq] at hlook
      case h_2 heq => rwa [heq] at hlook
  | heartbeat node listed timeout ids =>
    cases ids with
    | nil => exact h
    | cons target ids =>
      dsimp only [lookAt]
      rw [Memory.get?_sweepOne, h]
      rfl

/-- A call under a lock grants nothing and leaves the database as it is. -/
theorem performAt_locked (policy : FailoverPolicy) (clock : Readings) (t : Table) (c : Call) :
    ((Database.mk t true).performAt policy clock c).2 = ⟨t, true⟩
      ∧ Answer.grants ⟨c, ((Database.mk t true).performAt policy clock c).1⟩ = false := by
  cases c <;> exact ⟨rfl, rfl⟩

theorem step_call_database (d : Database) (underway : List Underway) (policy : FailoverPolicy)
    (clock : Readings) (c : Call) :
    step ⟨.database d, underway⟩ (.call policy clock c)
      = (some ⟨c, (d.performAt policy clock c).1⟩,
          ⟨.database (d.performAt policy clock c).2, underway⟩) := rfl

/-- Every event shows in one of the forms. -/
theorem step_shown (h : s.store.Shows m) (e : Event)
    (hhand : ∀ c ∈ e.call?, c.startsByHand = false)
    (hfresh : ∀ id ∈ e.created?, m.get? id = none) :
    ∃ m', (step s e).2.store.Shows m' ∧ Shown m (step s e).1 m' := by
  obtain ⟨store, underway⟩ := s
  cases e with
  | call policy clock c =>
    have hcall : Shown m (some ⟨c, (m.performAt policy clock c).1⟩)
        (m.performAt policy clock c).2 := .call policy clock c (hhand c rfl) hfresh
    cases h with
    | memory hm =>
      -- A memory only takes a snapshot for a claim or a heartbeat; the looks come later.
      cases c with
      | claim | heartbeat => exact ⟨m, .memory hm, .nothing (fun _ h => nomatch h)⟩
      | _ => exact ⟨_, .memory (hcall.counted hm), hcall⟩
    | @database _ t locked hagrees =>
      cases locked with
      | false =>
        obtain ⟨t', heq, hagrees'⟩ := performAt_agrees policy clock hagrees c hfresh
        rw [step_call_database, heq]
        exact ⟨(m.performAt policy clock c).2, .database false hagrees', hcall⟩
      | true =>
        obtain ⟨hsame, hgrants⟩ := performAt_locked policy clock t c
        rw [step_call_database, hsame]
        refine ⟨m, .database true hagrees, .nothing ?_⟩
        rintro a ⟨⟩
        exact hgrants
  | look policy now n =>
    cases h with
    | memory hm =>
      cases hn : underway[n]? with
      | none =>
        have hstep : step ⟨.memory m, underway⟩ (.look policy now n)
            = (none, ⟨.memory m, underway⟩) := by
          simp only [step, hn]
        rw [hstep]
        exact ⟨m, .memory hm, .nothing (fun _ h => nomatch h)⟩
      | some call =>
        have hlook := shown_lookAt policy now.toInstant m call
        have hstep : step ⟨.memory m, underway⟩ (.look policy now n)
            = ((lookAt policy now.toInstant m call).1,
                ⟨.memory (lookAt policy now.toInstant m call).2.2,
                  proceed underway n (lookAt policy now.toInstant m call).2.1⟩) := by
          simp only [step, hn]
        rw [hstep]
        exact ⟨_, .memory (hlook.counted hm), hlook⟩
    | database locked hagrees =>
      exact ⟨m, .database locked hagrees, .nothing (fun _ h => nomatch h)⟩
  | skip n =>
    have hstep : (step ⟨store, underway⟩ (.skip n)).1 = none
        ∧ (step ⟨store, underway⟩ (.skip n)).2.store = store := by
      dsimp only [step]
      split <;> exact ⟨rfl, rfl⟩
    rw [hstep.1, hstep.2]
    exact ⟨m, h, .nothing (fun _ h => nomatch h)⟩
  | lock locked => exact ⟨m, h.setLock locked, .nothing (fun _ h => nomatch h)⟩

/-- A look ends a claim or a heartbeat, if it ends a call. -/
theorem operation_of_lookAt (policy : FailoverPolicy) (now : Instant) (m : Memory)
    (call : Underway) :
    ∀ a ∈ (lookAt policy now m call).1, a.1.operation = .claim ∨ a.1.operation = .heartbeat := by
  intro a ha
  cases call with
  | claim node ids =>
    cases ids with
    | nil =>
      obtain rfl := Option.some.inj ha
      exact Or.inl rfl
    | cons id ids =>
      dsimp only [lookAt] at ha
      split at ha
      · cases ha
      · obtain rfl := Option.some.inj ha
        exact Or.inl rfl
  | heartbeat node listed timeout ids =>
    cases ids with
    | nil =>
      obtain rfl := Option.some.inj ha
      exact Or.inr rfl
    | cons id ids => cases ha

/-- An event ends the call that it begins, or else a claim or a heartbeat that was under way. -/
theorem call_of_answer {s : Traffic} {e : Event} {a : Answer} (ha : (step s e).1 = some a) :
    (∃ policy clock, e = .call policy clock a.1)
    ∨ e.call? = none ∧ (a.1.operation = .claim ∨ a.1.operation = .heartbeat) := by
  obtain ⟨store, underway⟩ := s
  cases e with
  | call policy clock c =>
    refine Or.inl ⟨policy, clock, ?_⟩
    cases store with
    | memory m =>
      cases c with
      | claim | heartbeat => cases ha
      | _ =>
        obtain rfl := Option.some.inj ha
        rfl
    | database d =>
      obtain rfl := Option.some.inj ha
      rfl
  | look policy now n =>
    refine Or.inr ⟨rfl, ?_⟩
    dsimp only [step] at ha
    split at ha
    case h_1 => exact operation_of_lookAt policy now.toInstant _ _ a ha
    case h_2 => cases ha
  | skip n =>
    dsimp only [step] at ha
    split at ha <;> cases ha
  | lock locked => cases ha

/-- The call that an event ends creates what the event creates. -/
theorem created?_of_answer {s : Traffic} {e : Event} {a : Answer} (ha : (step s e).1 = some a) :
    a.1.created? = e.created? := by
  rcases call_of_answer ha with ⟨policy, clock, rfl⟩ | ⟨hcall, hop⟩
  · rfl
  · rw [Event.created?, hcall]
    obtain ⟨c, result⟩ := a
    cases c with
    | create => rcases hop with hop | hop <;> cases hop
    | _ => rfl

end Traffic

end TaskCluster
