import Mathlib
import TaskCluster.Proofs.Store.MemoryEffect

/-!
# Leases

A record that runs holds a lease: the node that owns the run, the count of the run, and the last
sign of life. What matters about a store to the nodes of a cluster is which leases there are, and
each call changes the leases in one way: a claim hands out one, a report gives one back, a heartbeat
renews some and takes away stale ones, and the other calls leave them alone.
-/

namespace TaskCluster

/-- The run that a record is at. -/
structure Lease where
  node : Option String
  runCount : UInt32
  heartbeat : Int64
deriving DecidableEq

namespace Lease

/-- Is the lease that of a claim? -/
def Of (l : Lease) (c : Claim) : Prop := l.node = some c.node ∧ l.runCount = c.runCount

/-- Does a node keep the lease of an id when its heartbeat lists some ids? -/
def KeptBy (l : Lease) (node : String) (ids : List String) (id : String) : Prop :=
  id ∈ ids ∧ l.node = some node

instance (l : Lease) (node : String) (ids : List String) (id : String) :
    Decidable (l.KeptBy node ids id) := inferInstanceAs (Decidable (_ ∧ _))

/-- The lease after a heartbeat of a node that lists some ids. -/
def renewed (node : String) (ids : List String) (now : Instant) (id : String) (l : Lease) : Lease :=
  if l.KeptBy node ids id then { l with heartbeat := Int64.ofInt now.millis } else l

/-- Is the last sign of life older than the timeout? -/
def isStale (l : Lease) (timeout : Duration) (now : Instant) : Bool :=
  l.heartbeat.toInt < Record.clampMillis (now.millis - timeout.clockMillis)

/-- A lease belongs to one claim. -/
theorem Of.unique {l : Lease} {c c' : Claim} (h : l.Of c) (h' : l.Of c') : c = c' := by
  obtain ⟨hnode, hcount⟩ := h
  obtain ⟨hnode', hcount'⟩ := h'
  cases c
  cases c'
  obtain rfl := Option.some.inj (hnode.symm.trans hnode')
  obtain rfl := hcount.symm.trans hcount'
  rfl

theorem renewed_of_kept {l : Lease} {node : String} {ids : List String} {now : Instant}
    {id : String} (h : l.KeptBy node ids id) :
    l.renewed node ids now id = { l with heartbeat := Int64.ofInt now.millis } := if_pos h

theorem renewed_of_not_kept {l : Lease} {node : String} {ids : List String} {now : Instant}
    {id : String} (h : ¬ l.KeptBy node ids id) : l.renewed node ids now id = l := if_neg h

theorem node_renewed {l : Lease} {node : String} {ids : List String} {now : Instant} {id : String} :
    (l.renewed node ids now id).node = l.node := by
  unfold renewed
  split <;> rfl

theorem of_renewed_iff {l : Lease} {node : String} {ids : List String} {now : Instant}
    {id : String} {c : Claim} : (l.renewed node ids now id).Of c ↔ l.Of c := by
  unfold renewed
  split <;> rfl

end Lease

namespace Record

variable {r : Record}

/-- The lease of a record, if it runs. -/
def lease? (r : Record) : Option Lease :=
  if r.status = .running then some ⟨r.node, r.runCount, r.heartbeat⟩ else none

theorem lease?_of_running (h : r.status = .running) :
    r.lease? = some ⟨r.node, r.runCount, r.heartbeat⟩ := if_pos h

theorem lease?_of_not_running (h : r.status ≠ .running) : r.lease? = none := if_neg h

theorem lease?_eq_some_iff {l : Lease} :
    r.lease? = some l
      ↔ r.status = .running ∧ r.node = l.node ∧ r.runCount = l.runCount
        ∧ r.heartbeat = l.heartbeat := by
  unfold lease?
  split
  case isTrue h =>
    rw [Option.some.injEq]
    constructor
    · rintro rfl
      exact ⟨h, rfl, rfl, rfl⟩
    · rintro ⟨-, hnode, hcount, hheartbeat⟩
      rw [hnode, hcount, hheartbeat]
  case isFalse h =>
    constructor
    · intro hl
      cases hl
    · exact fun hl => absurd hl.1 h

theorem isRunningUnder_of_lease? {l : Lease} {c : Claim} (h : r.lease? = some l) (hc : l.Of c) :
    r.isRunningUnder c = true := by
  obtain ⟨hstatus, hnode, hcount, -⟩ := lease?_eq_some_iff.mp h
  simp [isRunningUnder, hstatus, hcount, hnode, hc.1, hc.2]

theorem claim?_of_lease? {l : Lease} {c : Claim} (h : r.lease? = some l) (hc : l.Of c) :
    r.claim? = some c := by
  obtain ⟨-, hnode, hcount, -⟩ := lease?_eq_some_iff.mp h
  rw [claim?, hnode, hcount, hc.1, hc.2]
  rfl

/-! ### What transitions do to a lease -/

theorem lease?_requestCancel (r : Record) : r.requestCancel.2.lease? = r.lease? := by
  unfold requestCancel
  split <;> rfl

theorem lease?_appendLog (r : Record) (line : String) : (r.appendLog line).lease? = r.lease? := rfl

/-- A record that is offered and not taken holds no lease that it did not hold before. -/
theorem lease?_offered {r : Record} (hr : r.Counted) {node : String} {policy : FailoverPolicy}
    {now : Instant} (h : ∀ new, r.offer node policy now ≠ .taken new) :
    (r.offered node policy now).lease? = r.lease? := by
  unfold offered
  cases ho : r.offer node policy now with
  | passed => rfl
  | canceled new =>
    obtain ⟨hrunnable, hstatus, -⟩ := of_offer_canceled ho
    rw [lease?_of_not_running (not_running_of_isRunnable hrunnable),
      lease?_of_not_running (by simp [hstatus])]
  | taken new => exact absurd ho (h new)
  | overflowed new => exact absurd ho (hr.offer_ne_overflowed node policy now new)

/-- A record that is taken holds the lease of the node. -/
theorem lease?_of_taken {r new : Record} {node : String} {policy : FailoverPolicy} {now : Instant}
    (h : r.offer node policy now = .taken new) :
    r.lease? = none
      ∧ new.lease? = some ⟨some node, new.runCount, Int64.ofInt now.millis⟩
      ∧ new.claim? = some ⟨node, new.runCount⟩ := by
  obtain ⟨hrunnable, rfl, -⟩ := of_offer_taken h
  exact ⟨lease?_of_not_running (not_running_of_isRunnable hrunnable), rfl, rfl⟩

/-- A report of the end of a run gives the lease of its claim back. -/
theorem changeStatusFor_of_lease? {l : Lease} {c : Claim} (h : r.lease? = some l) (hc : l.Of c)
    {next : Status} (hnext : Status.running.canChangeTo next = true) (message : Option String)
    (now : Instant) :
    (r.changeStatusFor c next message now).1 = true
      ∧ (r.changeStatusFor c next message now).2.lease? = none := by
  have hstatus := (lease?_eq_some_iff.mp h).1
  have hreport : r.changeStatusFor c next message now = (true, r.moved next message now) := by
    rw [changeStatusFor, if_pos (isRunningUnder_of_lease? h hc), changeStatus, hstatus,
      if_pos hnext]
  have hleft : next ≠ .running := by
    rintro rfl
    cases hnext
  rw [hreport]
  exact ⟨rfl, lease?_of_not_running hleft⟩

/-- A heartbeat renews the lease of a run that the node keeps, and leaves others alone as long as
they are fresh. -/
theorem checkHeartbeat_of_kept {node : String} {ids : List String} {timeout : Duration}
    {now : Instant}
    (h : ∀ l, r.lease? = some l → l.KeptBy node ids r.id ∨ l.isStale timeout now = false) :
    (r.checkHeartbeat node ids timeout now).2.status = r.status
      ∧ (r.checkHeartbeat node ids timeout now).2.lease?
          = r.lease?.map (Lease.renewed node ids now r.id) := by
  by_cases hstatus : r.status = .running
  · have hlease := lease?_of_running hstatus
    by_cases hkept : r.id ∈ ids ∧ r.node = some node
    · have hlisted : ids.contains r.id = true ∧ r.node = some node :=
        ⟨List.contains_iff_mem.mpr hkept.1, hkept.2⟩
      have hcheck : r.checkHeartbeat node ids timeout now
          = (.refreshed, { r with heartbeat := Int64.ofInt now.millis }) := by
        rw [checkHeartbeat, if_neg (not_not.mpr hstatus), if_pos hlisted]
      rw [hcheck, hlease, Option.map_some,
        Lease.renewed_of_kept (l := ⟨r.node, r.runCount, r.heartbeat⟩) hkept]
      exact ⟨rfl, lease?_of_running hstatus⟩
    · have hlisted : ¬ (ids.contains r.id = true ∧ r.node = some node) := fun hboth =>
        hkept ⟨List.contains_iff_mem.mp hboth.1, hboth.2⟩
      have hfresh : r.isStale timeout now = false := (h _ hlease).resolve_left hkept
      have hcheck : r.checkHeartbeat node ids timeout now = (.untouched, r) := by
        rw [checkHeartbeat, if_neg (not_not.mpr hstatus), if_neg hlisted, hfresh,
          if_neg Bool.false_ne_true]
      rw [hcheck, hlease, Option.map_some,
        Lease.renewed_of_not_kept (l := ⟨r.node, r.runCount, r.heartbeat⟩) hkept]
      exact ⟨rfl, rfl⟩
  · rw [checkHeartbeat_of_not_running hstatus, lease?_of_not_running hstatus]
    exact ⟨rfl, rfl⟩

end Record

/-! ### Leases of a memory -/

/-- A call that neither begins nor ends a run, nor looks after one. -/
def Call.isQuiet : Call → Bool
  | .list _ | .get _ | .requestCancel _ | .log .. => true
  | _ => false

namespace Memory

variable {m : Memory}

/-- The lease of the record of an id. -/
def lease? (m : Memory) (id : String) : Option Lease := (m.get? id).bind Record.lease?

theorem lease?_eq_some_iff {id : String} {l : Lease} :
    m.lease? id = some l ↔ ∃ r, m.get? id = some r ∧ r.lease? = some l := Option.bind_eq_some_iff

/-- A call whose effect is a map that keeps the lease of a record. -/
theorem lease?_of_map {m' : Memory} {g : Record → Record} (hg : ∀ r, (g r).id = r.id)
    (h : m'.records = m.records.map g) {id : String}
    (hlease : ∀ r, m.get? id = some r → (g r).lease? = r.lease?) : m'.lease? id = m.lease? id := by
  rw [lease?, lease?, get?_of_records_eq hg h]
  cases hr : m.get? id with
  | none => rfl
  | some r => exact hlease r hr

section PerformAt

variable (policy : FailoverPolicy) (clock : Readings)

/-- No call overflows: a counted record is never claimed beyond the limit. -/
theorem performAt_ne_overflow (hm : m.Counted) (c : Call) (o : Overflow) :
    (m.performAt policy clock c).1 ≠ .error (.overflow o) := by
  intro h
  cases c with
  | log id line =>
    dsimp only [performAt] at h
    split at h <;> cases h
  | claim node =>
    obtain ⟨reached, -, hend⟩ := performAt_claim policy clock hm node
    rw [h] at hend
    cases hend
  | _ => cases h

/-- A quiet call leaves all leases alone. -/
theorem lease?_performAt_quiet (hm : m.Counted) {c : Call} (hc : c.isQuiet = true) (id : String) :
    (m.performAt policy clock c).2.lease? id = m.lease? id := by
  have hcreate : c.operation ≠ .create := by
    cases c with
    | create => cases hc
    | _ => exact nofun
  obtain ⟨reached, hrecords⟩ := performAt_records policy clock hm hcreate
  refine lease?_of_map (fun r => (r.sameTask_after policy clock reached c).id) hrecords ?_
  intro r _
  cases c with
  | list | get => rfl
  | requestCancel id' =>
    dsimp only [Record.after]
    split
    · exact r.lease?_requestCancel
    · rfl
  | log id' line =>
    dsimp only [Record.after]
    split
    · exact r.lease?_appendLog line
    · rfl
  | _ => cases hc

/-- A task that is created holds no lease. -/
theorem lease?_performAt_create {new : String} (h : m.get? new = none) (taskType : String)
    (config : Config) (id : String) :
    (m.performAt policy clock (.create new taskType config)).2.lease? id = m.lease? id := by
  unfold lease?
  dsimp only [performAt]
  rw [get?_put h]
  by_cases hid : new = id
  · subst hid
    have hfresh : (Record.fresh new taskType config (clock new).toInstant).id = new := rfl
    rw [if_pos hfresh, h]
    rfl
  · rw [if_neg (show (Record.fresh new taskType config (clock new).toInstant).id ≠ id from hid)]

/-- A claim that is answered with nothing leaves all leases alone. -/
theorem lease?_performAt_claim_none (hm : m.Counted) {node : String}
    (h : (m.performAt policy clock (.claim node)).1 = .ok none) (id : String) :
    (m.performAt policy clock (.claim node)).2.lease? id = m.lease? id := by
  obtain ⟨reached, hrecords, hend⟩ := performAt_claim policy clock hm node
  rw [h] at hend
  cases hend with
  | exhausted hall hnone =>
    refine lease?_of_map (fun r => (r.sameTask_after policy clock reached (.claim node)).id)
      hrecords ?_
    intro r hr
    dsimp only [Record.after]
    split
    case isTrue hreached =>
      exact Record.lease?_offered (hm r (mem_of_get? hr)) (hnone r (mem_of_get? hr) hreached)
    case isFalse => rfl

/-- A claim that is answered with a record hands out the lease of that record, which was free, and
leaves the others alone. -/
theorem lease?_performAt_claim_some (hm : m.Counted) {node : String} {new : Record}
    (h : (m.performAt policy clock (.claim node)).1 = .ok (some new)) :
    m.lease? new.id = none
      ∧ (m.performAt policy clock (.claim node)).2.lease? new.id
          = some ⟨some node, new.runCount, Int64.ofInt (clock new.id).toInstant.millis⟩
      ∧ new.claim? = some ⟨node, new.runCount⟩
      ∧ ∀ id, id ≠ new.id →
          (m.performAt policy clock (.claim node)).2.lease? id = m.lease? id := by
  obtain ⟨reached, hrecords, hend⟩ := performAt_claim policy clock hm node
  have hafter : ∀ r : Record, (r.after policy clock reached (.claim node)).id = r.id := fun r =>
    (r.sameTask_after policy clock reached (.claim node)).id
  rw [h] at hend
  cases hend with
  | @found old _ before hmem hlast htaken hnone =>
    obtain ⟨hfree, hlease, hclaim⟩ := Record.lease?_of_taken htaken
    have hid : new.id = old.id := by
      obtain ⟨-, rfl, -⟩ := Record.of_offer_taken htaken
      rfl
    have hold := get?_of_mem hmem
    have hreached : old.id ∈ reached := by simp [hlast]
    have htook : old.after policy clock reached (.claim node) = new := by
      dsimp only [Record.after, Record.offered]
      rw [if_pos hreached, htaken]
    refine ⟨?_, ?_, hclaim, ?_⟩
    · rw [hid, lease?, hold]
      exact hfree
    · rw [hid, lease?, get?_of_records_eq hafter hrecords, hold]
      exact (congrArg Record.lease? htook).trans hlease
    · intro id hne
      refine lease?_of_map hafter hrecords ?_
      intro r hr
      have hrid := id_of_get? hr
      dsimp only [Record.after]
      split
      case isTrue hmem' =>
        -- The scan ended with the record that it took, so this one came before.
        rw [hlast, List.mem_append, List.mem_singleton] at hmem'
        have hbefore := hmem'.resolve_right fun heq => hne (by rw [hid, ← heq, hrid])
        exact Record.lease?_offered (hm r (mem_of_get? hr))
          (hnone r (mem_of_get? hr) hbefore)
      case isFalse => rfl

/-- A report of the end of a run under its claim is accepted, and gives the lease back. -/
theorem lease?_performAt_changeFor {id : String} {l : Lease} {c : Claim}
    (h : m.lease? id = some l) (hc : l.Of c) {next : Status}
    (hnext : Status.running.canChangeTo next = true) (message : Option String) :
    (m.performAt policy clock (.changeFor id c next message)).1 = .ok true
      ∧ ∀ id', (m.performAt policy clock (.changeFor id c next message)).2.lease? id'
          = if id' = id then none else m.lease? id' := by
  obtain ⟨r, hr, hlease⟩ := lease?_eq_some_iff.mp h
  obtain ⟨hdone, hfree⟩ :=
    Record.changeStatusFor_of_lease? hlease hc hnext message (clock id).toInstant
  have hsame : ∀ r : Record,
      (r.changeStatusFor c next message (clock id).toInstant).2.id = r.id := fun r =>
    (r.sameTask_changeStatusFor c next message _).id
  refine ⟨?_, ?_⟩
  · dsimp only [performAt]
    rw [update_fst, hr, Option.map_some, hdone]
    rfl
  · intro id'
    dsimp only [performAt]
    rw [lease?, get?_update hsame]
    by_cases hid : id = id'
    · subst hid
      rw [if_pos rfl, if_pos rfl, hr]
      exact hfree
    · rw [if_neg hid, if_neg (fun heq => hid heq.symm)]
      rfl

/-- A heartbeat that meets no stale lease but those that it renews leaves every status alone. -/
theorem performAt_heartbeat (node : String) (ids : List String) (timeout : Duration)
    (hfresh : ∀ id l, m.lease? id = some l → l.KeptBy node ids id ∨
      l.isStale timeout (clock id).toInstant = false) (id : String) :
    (m.performAt policy clock (.heartbeat node ids timeout)).2.lease? id
        = (m.lease? id).map (Lease.renewed node ids (clock id).toInstant id)
      ∧ ((m.performAt policy clock (.heartbeat node ids timeout)).2.get? id).map Record.status
        = (m.get? id).map Record.status := by
  have hget : (m.performAt policy clock (.heartbeat node ids timeout)).2.get? id
      = (m.get? id).map fun r =>
          (r.checkHeartbeat node ids timeout (clock r.id).toInstant).2 :=
    get?_of_records_eq (fun r => (r.sameTask_checkHeartbeat node ids timeout _).id)
      (sweep_records clock m) id
  rw [lease?, lease?, hget]
  cases hr : m.get? id with
  | none => exact ⟨rfl, rfl⟩
  | some r =>
    obtain rfl := id_of_get? hr
    have hkept : ∀ l, r.lease? = some l → l.KeptBy node ids r.id ∨
        l.isStale timeout (clock r.id).toInstant = false := fun l hl =>
      hfresh r.id l (lease?_eq_some_iff.mpr ⟨r, hr, hl⟩)
    obtain ⟨hstatus, hlease⟩ := Record.checkHeartbeat_of_kept hkept
    exact ⟨hlease, congrArg some hstatus⟩

end PerformAt

end Memory

end TaskCluster
