import Mathlib
import TaskCluster.Proofs.Store.ClaimScan
import TaskCluster.Proofs.Store.Entries

/-!
# The records that wait for a run

A claim looks at the records that wait for a run, oldest first. Whatever else a store holds, and
whether or not the rest of a table can be read, these records alone decide what the claim answers
and what it writes: it is a recursion along those that may be run now (`Store.claimFrom`), over
either kind of store (`Store.Offers.call_claim`). What a claim writes does not wait any more, so the
next claim looks at the rest (`Store.Offers.write`).
-/

namespace TaskCluster

/-! ### Writing a record -/

namespace Record

theorem kept_givenUp (r : Record) : Kept r r.givenUp where
  same := ⟨rfl, rfl, rfl, rfl⟩
  whole h := ⟨h.createdAt, h.startedAt, h.finishedAt⟩
  counted _ hnew := by cases hnew

theorem kept_running (r : Record) (node : String) (now : ClockTime) :
    Kept r (r.running node now.toInstant) where
  same := ⟨rfl, rfl, rfl, rfl⟩
  whole h := by
    refine ⟨h.createdAt, ?_, fun t ht => by cases ht⟩
    intro t ht
    obtain rfl := Option.some.inj ht
    exact now.isReading_toInstant
  counted _ hnew := by cases hnew

end Record

namespace Store

/-- Writes a record over the one of its id. -/
def write (s : Store) (new : Record) : Store :=
  match s with
  | .memory m => .memory (m.replace new)
  | .database d => .database { d with table := d.table.update new }

variable {s : Store} {old new : Record}

theorem record?_write_of_ne {id : String} (h : id ≠ new.id) :
    (s.write new).record? id = s.record? id := by
  cases s with
  | memory m =>
    have hne : ¬ new.id = id := fun heq => h heq.symm
    exact (m.get?_replace new id).trans (if_neg hne)
  | database d =>
    have hfind : (d.table.update new).find? id = d.table.find? id := by
      rw [Table.find?_update, if_neg h]
    dsimp only [write]
    rw [record?_database, record?_database, Table.record?, Table.record?, hfind]

theorem record?_write {id : String} (h : s.record? id = some old) (hkept : Record.Kept old new) :
    (s.write new).record? id = some new := by
  cases s with
  | memory m =>
    have hget : m.get? id = some old := h
    refine (m.get?_replace new id).trans ?_
    rw [if_pos (hkept.same.id.trans (Memory.id_of_get? hget)), hget]
    rfl
  | database d =>
    rw [record?_database] at h
    obtain rfl := Table.id_of_record? h
    dsimp only [write]
    rw [record?_database]
    have hwhole := hkept.whole (Table.whole_of_record? h)
    exact (Table.record?_update h hkept.same hwhole old.id).trans (if_pos rfl)

end Store

/-! ### The queue -/

section Queue

variable (node : String) (policy : FailoverPolicy) (now : Instant)

/-- The records among some that may be run on a node now, oldest first. -/
def Record.queue (rs : List Record) : List Record :=
  (oldestFirst rs).filter fun r => r.isRunnableNow node policy now

/-- The records of a queue whose tasks may start. -/
def Record.startable (q : List Record) : List Record := q.filter fun r => r.mayStart policy

/-- A claim that looks at a queue: it takes the first record whose task may start, and gives up
those before it. -/
def Store.claimFrom : List Record → Store → Option Record × Store
  | [], s => (none, s)
  | r :: q, s =>
    if r.mayStart policy then (some (r.running node now), s.write (r.running node now))
    else claimFrom q (s.write r.givenUp)

variable {node policy now}

namespace Record

theorem mem_queue {rs : List Record} {r : Record} :
    r ∈ queue node policy now rs ↔ r ∈ rs ∧ r.isRunnableNow node policy now = true := by
  rw [queue, List.mem_filter, oldestFirst, List.mem_mergeSort]

theorem startable_cons_of_mayStart {q : List Record} {r : Record} (h : r.mayStart policy = true) :
    startable policy (r :: q) = r :: startable policy q := List.filter_cons_of_pos h

theorem startable_cons_of_not_mayStart {q : List Record} {r : Record}
    (h : r.mayStart policy = false) : startable policy (r :: q) = startable policy q :=
  List.filter_cons_of_neg (by simp [h])

theorem queue_filter (p : Record → Bool) (rs : List Record) :
    queue node policy now (rs.filter p) = (queue node policy now rs).filter p := by
  rw [queue, queue, ← filter_oldestFirst, List.filter_filter, List.filter_filter]
  exact List.filter_congr fun r _ => Bool.and_comm _ _

theorem length_queue_le (rs : List Record) : (queue node policy now rs).length ≤ rs.length :=
  (List.length_filter_le _ _).trans (List.length_mergeSort rs).le

theorem nodup_ids_queue {rs : List Record} (h : (rs.map Record.id).Nodup) :
    ((queue node policy now rs).map Record.id).Nodup := by
  have hsorted : ((oldestFirst rs).map Record.id).Nodup :=
    ((List.mergeSort_perm rs _).map Record.id).nodup_iff.mpr h
  exact hsorted.sublist (List.filter_sublist.map Record.id)

/-- Without its first record a queue is the queue of the other records. -/
theorem queue_filter_head {rs q : List Record} {r : Record} (h : (rs.map Record.id).Nodup)
    (hq : queue node policy now rs = r :: q) :
    queue node policy now (rs.filter fun x => x.id != r.id) = q := by
  have hnodup : ((queue node policy now rs).map Record.id).Nodup := nodup_ids_queue h
  rw [hq, List.map_cons, List.nodup_cons] at hnodup
  rw [queue_filter, hq, List.filter_cons_of_neg (by simp), List.filter_eq_self]
  intro x hx
  have hne : x.id ≠ r.id := fun heq => hnodup.1 (heq ▸ List.mem_map_of_mem hx)
  simpa using hne

end Record

end Queue

/-! ### Claims, along the queue -/

section Claim

variable {node : String} {policy : FailoverPolicy} {now : ClockTime} {rs : List Record}

/-- A scan of a memory goes along the queue of the records that it looks at. -/
theorem Memory.scan_eq_claimFrom {m : Memory} (hrs : Current m rs)
    (hcountable : ∀ r ∈ rs, r.Countable) :
    let runnable := rs.filter fun r => r.isRunnableNow node policy now.toInstant
    let out := Store.claimFrom node policy now.toInstant runnable (.memory m)
    ∃ m', m.scan node policy (fun _ => now) (rs.map Record.id) = (.ok out.1, m')
      ∧ out.2 = .memory m' := by
  induction rs generalizing m with
  | nil => exact ⟨m, rfl, rfl⟩
  | cons r rs ih =>
    have hrest := fun x hx => hcountable x (List.mem_cons_of_mem r hx)
    intro runnable out
    dsimp only [out]
    rw [List.map_cons, scan, scanOne, hrs.get? r List.mem_cons_self]
    dsimp only
    cases hnow : r.isRunnableNow node policy now.toInstant with
    | false =>
      have hrunnable : runnable = rs.filter fun r => r.isRunnableNow node policy now.toInstant :=
        List.filter_cons_of_neg (by simp [hnow])
      rw [hrunnable, Record.offer_passed hnow]
      exact ih hrs.tail hrest
    | true =>
      have hrunnable : runnable
          = r :: rs.filter fun r => r.isRunnableNow node policy now.toInstant :=
        List.filter_cons_of_pos hnow
      rw [hrunnable, Store.claimFrom]
      cases hstart : r.mayStart policy with
      | true =>
        rw [Record.offer_running (hcountable r List.mem_cons_self) hnow hstart]
        exact ⟨_, rfl, rfl⟩
      | false =>
        rw [Record.offer_givenUp hnow hstart]
        exact ih (hrs.tail_replace rfl) hrest

/-- A transaction that offers records goes along the queue of them. -/
theorem Transaction.offerAll_eq_claimFrom (t : Table) (hcountable : ∀ r ∈ rs, r.Countable) :
    let runnable := rs.filter fun r => r.isRunnableNow node policy now.toInstant
    let out := Store.claimFrom node policy now.toInstant runnable (.database ⟨t, false⟩)
    ∃ t', offerAll node policy (fun _ => now) rs t = .ok (out.1, t')
      ∧ out.2 = .database ⟨t', false⟩ := by
  induction rs generalizing t with
  | nil => exact ⟨t, rfl, rfl⟩
  | cons r rs ih =>
    have hrest := fun x hx => hcountable x (List.mem_cons_of_mem r hx)
    intro runnable out
    dsimp only [out]
    rw [offerAll]
    cases hnow : r.isRunnableNow node policy now.toInstant with
    | false =>
      have hrunnable : runnable = rs.filter fun r => r.isRunnableNow node policy now.toInstant :=
        List.filter_cons_of_neg (by simp [hnow])
      rw [hrunnable, Record.offer_passed hnow]
      exact ih t hrest
    | true =>
      have hrunnable : runnable
          = r :: rs.filter fun r => r.isRunnableNow node policy now.toInstant :=
        List.filter_cons_of_pos hnow
      rw [hrunnable, Store.claimFrom]
      cases hstart : r.mayStart policy with
      | true =>
        rw [Record.offer_running (hcountable r List.mem_cons_self) hnow hstart]
        exact ⟨_, rfl, rfl⟩
      | false =>
        rw [Record.offer_givenUp hnow hstart]
        exact ih (t.update r.givenUp) hrest

end Claim

/-! ### What a store offers -/

/-- The listing of the tasks that wait for a run. -/
def Listing.waiting : Listing := { statuses := [.new, .failover] }

/-- A claim over the connection succeeds and looks at some records, here in the order of their
insertion: at those that wait for a run, and at none while the database is locked. -/
inductive Store.Offers (k : Connection) : Store → List Record → Prop where
  | memory (m : Memory) : Offers k (.memory m) (m.records.filter fun r => r.status.isRunnable)
  | database {t : Table} {rs : List Record} (hk : k.broken = false)
      (hreads : Row.Reads (t.rows.filter (Table.selects .waiting)) rs) :
      Offers k (.database ⟨t, false⟩) rs
  | locked (t : Table) (hk : k.broken = false) : Offers k (.database ⟨t, true⟩) []

/-- Changing the members of a list that a test admits, so that another test fails on them, comes to
leaving them out. -/
theorem filter_map_eq_filter_filter {α : Type} {f : α → α} {p q : α → Bool} {l : List α}
    (hkept : ∀ a ∈ l, q a = true → f a = a) (hout : ∀ a ∈ l, q a = false → p (f a) = false) :
    (l.map f).filter p = (l.filter p).filter q := by
  induction l with
  | nil => rfl
  | cons a l ih =>
    have hrest := ih (fun x hx => hkept x (List.mem_cons_of_mem a hx))
      fun x hx => hout x (List.mem_cons_of_mem a hx)
    rw [List.map_cons, List.filter_cons]
    cases hq : q a with
    | true =>
      rw [hkept a List.mem_cons_self hq, List.filter_cons, hrest]
      split
      · rw [List.filter_cons_of_pos hq]
      · rfl
    | false =>
      rw [hout a List.mem_cons_self hq, if_neg Bool.false_ne_true, List.filter_cons, hrest]
      split
      · rw [List.filter_cons_of_neg (by simp [hq])]
      · rfl

namespace Store

variable {s : Store} {k : Connection} {rs : List Record}

/-- What is written and does not wait is not offered any more, and nothing else changes. -/
theorem Offers.write (h : s.Offers k rs) {new : Record} (hnew : new.status.isRunnable = false) :
    (s.write new).Offers k (rs.filter fun r => r.id != new.id) := by
  cases h with
  | memory m =>
    have hrecords : (m.replace new).records.filter (fun r => r.status.isRunnable)
        = (m.records.filter fun r => r.status.isRunnable).filter fun r => r.id != new.id := by
      rw [Memory.records_replace]
      refine filter_map_eq_filter_filter ?_ ?_
      · intro r _ hr
        exact if_neg (by simpa using hr)
      · intro r _ hr
        rw [if_pos (by simpa using hr)]
        exact hnew
    rw [← hrecords]
    exact .memory _
  | @database t rs hk hreads =>
    have hname : Table.selects .waiting = fun row : Row =>
        ([Status.new, .failover].map Status.name).contains row.status := rfl
    have hrows : (t.update new).rows.filter (Table.selects .waiting)
        = (t.rows.filter (Table.selects .waiting)).filter fun row => row.id != new.id := by
      refine filter_map_eq_filter_filter ?_ ?_
      · intro row _ hrow
        exact if_neg (by simpa using hrow)
      · intro row _ hrow
        rw [if_pos (by simpa using hrow), hname]
        refine (Status.contains_map_name _ new.status).trans ?_
        cases hs : new.status <;> simp [hs, Status.isRunnable] at hnew <;> rfl
    refine .database hk ?_
    rw [hrows]
    exact hreads.filter_id fun id => id != new.id
  | locked t hk => exact .locked _ hk

namespace Offers

theorem unique {rs' : List Record} (h : s.Offers k rs) (h' : s.Offers k rs') : rs = rs' := by
  cases h with
  | memory m =>
    cases h'
    rfl
  | database hk hreads =>
    cases h' with
    | database hk' hreads' => exact hreads.unique hreads'
  | locked t hk =>
    cases h'
    rfl

theorem nodup_ids (h : s.Offers k rs) : (rs.map Record.id).Nodup := by
  cases h with
  | memory m => exact m.ids_nodup.sublist (List.filter_sublist.map Record.id)
  | @database t _ hk hreads =>
    rw [(Row.of_mapM_read (Row.mapM_read_eq_ok_iff.mpr hreads)).1]
    exact t.ids_nodup.sublist (List.filter_sublist.map Row.id)
  | locked t hk => exact List.nodup_nil

theorem record? (h : s.Offers k rs) {r : Record} (hr : r ∈ rs) : s.record? r.id = some r := by
  cases h with
  | memory m => exact Memory.get?_of_mem (List.mem_of_mem_filter hr)
  | @database t _ hk hreads =>
    obtain ⟨row, hrow, hread⟩ := hreads.mem_iff.mp hr
    rw [record?_database, (Row.of_read hread).1]
    exact Table.record?_eq_some_iff.mpr
      ⟨row, Table.find?_of_mem (List.mem_of_mem_filter hrow), hread⟩
  | locked t hk => cases hr

theorem length_le_size (h : s.Offers k rs) : rs.length ≤ s.size := by
  cases h with
  | memory m => exact List.length_filter_le _ _
  | @database t _ hk hreads =>
    have hlength : (t.rows.filter (Table.selects .waiting)).length = rs.length :=
      hreads.length_eq
    rw [← hlength]
    exact List.length_filter_le _ _
  | locked t hk => exact Nat.zero_le _

end Offers

/-- The table selects the rows that wait, and sorts them as their records are. -/
theorem records_of_reads {t : Table} (h : Row.Reads (t.rows.filter (Table.selects .waiting)) rs) :
    Transaction.records [.new, .failover] t = .ok (Record.oldestFirst rs) := by
  have hsorted : t.inStatus [.new, .failover]
      = (t.rows.filter (Table.selects .waiting)).mergeSort fun a b => a.createdAt.le b.createdAt :=
    filter_mergeSort (fun a b c => Cell.le_trans a.createdAt b.createdAt c.createdAt)
      (fun a b => Cell.le_total a.createdAt b.createdAt) _ _
  have hreads : Row.Reads (t.inStatus [.new, .failover]) (Record.oldestFirst rs) := by
    rw [hsorted]
    exact forall₂_mergeSort h Row.le_of_read
  unfold Transaction.records
  exact orFault_eq_ok_iff.mpr (Row.mapM_read_eq_ok_iff.mpr hreads)

theorem exists_reads_of_records {t : Table} {sorted : List Record}
    (h : Transaction.records [.new, .failover] t = .ok sorted) :
    ∃ rs, Row.Reads (t.rows.filter (Table.selects .waiting)) rs := by
  have hreads := Row.mapM_read_eq_ok_iff.mp (orFault_eq_ok_iff.mp h)
  refine Row.Reads.exists_of_readable fun row hrow => ?_
  obtain ⟨hmem, hwaits⟩ := List.mem_filter.mp hrow
  exact hreads.readable row (List.mem_filter.mpr ⟨List.mem_mergeSort.mpr hmem, hwaits⟩)

/-- A claim goes along the queue of what is offered. -/
theorem Offers.call_claim (h : s.Offers k rs) (hcountable : ∀ r ∈ rs, r.Countable)
    (hk : .claim ∉ k.failing) (node : String) (now : ClockTime) :
    let queue := Record.queue node k.settings.failover now.toInstant rs
    let out := claimFrom node k.settings.failover now.toInstant queue s
    s.call now k (.claim node) = (.ok out.1, k, out.2) := by
  intro queue out
  have hfailing : ¬ k.failing.contains .claim = true := by simpa using hk
  unfold call
  rw [Call.operation, if_neg hfailing]
  cases h with
  | memory m =>
    have hall : ∀ r ∈ m.oldestFirst, r.Countable := by
      intro r hr hnew
      refine hcountable r (List.mem_filter.mpr ⟨m.oldestFirst_perm.mem_iff.mp hr, ?_⟩) hnew
      rw [hnew]
      rfl
    have hqueue : m.oldestFirst.filter
        (fun r => r.isRunnableNow node k.settings.failover now.toInstant) = queue := by
      dsimp only [queue]
      rw [Record.queue_filter, Record.queue, List.filter_filter]
      refine List.filter_congr fun r _ => ?_
      cases hnow : r.isRunnableNow node k.settings.failover now.toInstant with
      | false => rw [Bool.and_false]
      | true => rw [Record.isRunnable_of_isRunnableNow hnow, Bool.and_true]
    obtain ⟨m', hscan, hout⟩ := Memory.scan_eq_claimFrom m.current_oldestFirst hall
    rw [hqueue] at hscan hout
    have hperform : m.perform k.settings.failover now (.claim node) = (.ok out.1, m') := hscan
    dsimp only
    rw [hperform, ← hout]
  | @database t rs hbroken hreads =>
    have hall : ∀ r ∈ Record.oldestFirst rs, r.Countable :=
      fun r hr => hcountable r (List.mem_mergeSort.mp hr)
    obtain ⟨t', hoffer, hout⟩ := Transaction.offerAll_eq_claimFrom t hall
    have hclaim : Transaction.claim node k.settings.failover (fun _ => now) t
        = .ok (out.1, t') := by
      unfold Transaction.claim
      rw [records_of_reads hreads]
      exact hoffer
    have hperform : (Database.mk t false).perform k.settings.failover now (.claim node)
        = (.ok out.1, ⟨t', false⟩) := Database.write_ok hclaim (.ok none)
    dsimp only [onDatabase]
    rw [hbroken, if_neg Bool.false_ne_true, hperform]
    exact congrArg (fun store => (Except.ok out.1, k, store)) hout.symm
  | locked t hbroken =>
    have hqueue : queue = [] := by simp [queue, Record.queue, Record.oldestFirst]
    dsimp only [onDatabase, out]
    rw [hbroken, if_neg Bool.false_ne_true, hqueue]
    rfl

theorem not_failing_of_ok {c : Call} {now : ClockTime} {a : c.Result}
    (h : (s.call now k c).1 = .ok a) : c.operation ∉ k.failing := by
  intro hmem
  unfold call at h
  rw [if_pos (by simpa using hmem)] at h
  cases h

theorem not_broken_of_ok {d : Database} {c : Call} {now : ClockTime} {a : c.Result}
    (h : ((Store.database d).call now k c).1 = .ok a) : k.broken = false := by
  unfold call at h
  split at h
  · cases h
  · dsimp only [onDatabase] at h
    split at h
    case isTrue => cases h
    case isFalse hk => simpa using hk

/-- Where a claim succeeds some records are offered. -/
theorem exists_offers {node : String} {now : ClockTime} {a : Option Record}
    (h : (s.call now k (.claim node)).1 = .ok a) : ∃ rs, s.Offers k rs := by
  cases s with
  | memory m => exact ⟨_, .memory m⟩
  | database d =>
    obtain ⟨t, locked⟩ := d
    have hbroken := not_broken_of_ok h
    cases locked with
    | true => exact ⟨[], .locked t hbroken⟩
    | false =>
    rw [call_of_ok h] at h
    have hanswer : (Database.write ⟨t, false⟩ (.ok none)
        (Transaction.claim node k.settings.failover fun _ => now)).1 = .ok a := h
    obtain ⟨t', hdone, -⟩ := Database.of_write_ok (by simp) hanswer
    obtain ⟨sorted, hrecords, -⟩ := bind_eq_ok_iff.mp hdone
    obtain ⟨rs, hrs⟩ := exists_reads_of_records hrecords
    exact ⟨rs, .database hbroken hrs⟩

/-! ### Reports -/

/-- A call about one record is answered. -/
inductive Answers (k : Connection) : Store → Prop where
  | memory (m : Memory) : Answers k (.memory m)
  | database (t : Table) (hk : k.broken = false) : Answers k (.database ⟨t, false⟩)

theorem Offers.answers (h : s.Offers k rs) {r : Record} (hr : r ∈ rs) : s.Answers k := by
  cases h with
  | memory m => exact .memory m
  | database hk hreads => exact .database _ hk
  | locked t hk => cases hr

theorem Answers.write (h : s.Answers k) (new : Record) : (s.write new).Answers k := by
  cases h with
  | memory m => exact .memory _
  | database t hk => exact .database _ hk

/-- A report that is granted is written. -/
theorem Answers.call_changeFor (h : s.Answers k) (hk : .changeFor ∉ k.failing) {id : String}
    {c : Claim} {next : Status} {message : Option String} {now : ClockTime} {old new : Record}
    (hold : s.record? id = some old)
    (hnew : old.changeStatusFor c next message now.toInstant = (true, new)) :
    s.call now k (.changeFor id c next message) = (.ok true, k, s.write new) := by
  have hfailing : ¬ k.failing.contains .changeFor = true := by simpa using hk
  unfold call
  rw [Call.operation, if_neg hfailing]
  cases h with
  | memory m =>
    have hget : m.get? id = some old := hold
    have hupdate : (m.update id fun r => r.changeStatusFor c next message now.toInstant)
        = (some true, m.replace new) := by
      rw [Memory.update, hget]
      dsimp only
      rw [hnew]
    dsimp only [Memory.perform, Memory.performAt]
    rw [hupdate]
    rfl
  | database t hbroken =>
    rw [record?_database] at hold
    obtain ⟨row, hrow, hread⟩ := Table.record?_eq_some_iff.mp hold
    have hchange : Transaction.changeIf id
        (fun r => r.changeStatusFor c next message now.toInstant) t
        = .ok (true, t.update new) := by
      unfold Transaction.changeIf Transaction.change
      rw [hrow]
      dsimp only
      rw [hread]
      dsimp only [orFault, bind, Except.bind]
      rw [hnew]
      rfl
    have hperform : (Database.mk t false).perform k.settings.failover now
        (.changeFor id c next message) = (.ok true, ⟨t.update new, false⟩) :=
      Database.write_ok hchange (Database.lockTimeout id)
    dsimp only [onDatabase]
    rw [hbroken, if_neg Bool.false_ne_true, hperform]
    rfl

end Store

end TaskCluster
