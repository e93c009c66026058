import Mathlib
import TaskCluster.Proofs.Store.Readback
import TaskCluster.Store.Database

/-!
# The memory and the database agree

A memory looks at one record after the other and replaces whole records; a database selects rows,
reads them, and writes some columns of those that changed. `Mirrors` relates the two: the table holds
the rows of the records, in the same order, and the rows can be read back, so both show the same
records and list them alike. `Agrees` adds that the records are counted, as they are after calls.
Each call keeps that relation and answers the same on both sides (`performAt_agrees`), so whole
histories do (`run_agrees`).

The loops need some care. A claim of the database runs over the records that it selected at the
beginning, while a scan of the memory reads each record when it gets there. The two meet because the
ids are distinct: what a loop changes lies behind it (`offerAll_mirrors`, `sweep_agrees`).
-/

namespace TaskCluster

/-! ### What every transition keeps -/

namespace Record

/-- What every transition of a record keeps. -/
structure Kept (old new : Record) : Prop where
  same : SameTask old new
  whole : old.Whole → new.Whole
  counted : old.Counted → new.Counted

theorem kept_requestCancel (r : Record) : Kept r r.requestCancel.2 :=
  ⟨r.sameTask_requestCancel, whole_requestCancel, counted_requestCancel⟩

theorem kept_changeStatus (r : Record) (next : Status) (message : Option String)
    (now : ClockTime) : Kept r (r.changeStatus next message now.toInstant).2 :=
  ⟨r.sameTask_changeStatus next message _,
    fun h => whole_changeStatus h next message now.isReading_toInstant,
    fun h => counted_changeStatus h next message _⟩

theorem kept_changeStatusFor (r : Record) (c : Claim) (next : Status) (message : Option String)
    (now : ClockTime) : Kept r (r.changeStatusFor c next message now.toInstant).2 :=
  ⟨r.sameTask_changeStatusFor c next message _,
    fun h => whole_changeStatusFor h c next message now.isReading_toInstant,
    fun h => counted_changeStatusFor h c next message _⟩

theorem kept_appendLog (r : Record) (line : String) : Kept r (r.appendLog line) :=
  ⟨r.sameTask_appendLog line, fun h => ⟨h.createdAt, h.startedAt, h.finishedAt⟩, fun h => h⟩

theorem kept_checkHeartbeat (r : Record) (node : String) (ids : List String) (timeout : Duration)
    (now : ClockTime) : Kept r (r.checkHeartbeat node ids timeout now.toInstant).2 :=
  ⟨r.sameTask_checkHeartbeat node ids timeout _,
    fun h => whole_checkHeartbeat h node ids timeout now.isReading_toInstant,
    fun h => counted_checkHeartbeat h node ids timeout _⟩

end Record

/-! ### The relation -/

/-- The table holds the rows of the records of a memory, and the rows can be read back. -/
structure Mirrors (m : Memory) (t : Table) : Prop where
  rows : t.rows = m.records.map Row.ofRecord
  whole : ∀ r ∈ m.records, r.Whole

namespace Mirrors

variable {m : Memory} {t : Table}

theorem find? (h : Mirrors m t) (id : String) :
    t.find? id = (m.get? id).map Row.ofRecord := by
  unfold Table.find? Memory.get?
  rw [h.rows, List.find?_map]
  rfl

/-- The database reads the record that the memory holds. -/
theorem get (h : Mirrors m t) (id : String) :
    Database.get ⟨t, false⟩ id = .ok (m.get? id) := by
  dsimp only [Database.get]
  rw [h.find? id]
  cases hget : m.get? id with
  | none => rfl
  | some r =>
    simp only [Option.map_some]
    rw [Row.read_ofRecord (h.whole r (Memory.mem_of_get? hget))]
    rfl

/-- Writing a record back over the one of its id. -/
theorem replace (h : Mirrors m t) {old new : Record} (hold : old ∈ m.records)
    (hsame : Record.SameTask old new) (hnew : new.Whole) :
    Mirrors (m.replace new) (t.update new) where
  rows := by
    have hid := hsame.id
    change t.rows.map _ = (m.replace new).records.map _
    rw [h.rows, Memory.records_replace, List.map_map, List.map_map]
    refine List.map_congr_left fun r hr => ?_
    simp only [Function.comp_apply]
    by_cases hrid : r.id = new.id
    · obtain rfl := Memory.eq_of_id_eq hr hold (hrid.trans hid)
      have hrow : (Row.ofRecord r).id = new.id := hrid
      rw [if_pos hrow, if_pos hrid, Row.write_ofRecord hsame, hrow]
      rfl
    · have hrow : ¬ (Row.ofRecord r).id = new.id := hrid
      rw [if_neg hrow, if_neg hrid]
  whole := by
    intro r hr
    rw [Memory.records_replace] at hr
    obtain ⟨x, hx, rfl⟩ := List.mem_map.mp hr
    split
    · exact hnew
    · exact h.whole x hx

/-- A memory fixes the table that mirrors it. -/
theorem unique {t' : Table} (h : Mirrors m t) (h' : Mirrors m t') :
    t = t' := by
  have hrows : t.rows = t'.rows := h.rows.trans h'.rows.symm
  cases t
  cases t'
  cases hrows
  rfl

/-- Adding a record behind all others. -/
theorem insert (h : Mirrors m t) {r : Record} (hid : m.get? r.id = none) (hwhole : r.Whole) :
    ∃ t', t.insert (Row.ofRecord r) = .ok t' ∧ Mirrors (m.put r) t' := by
  have hids : t.rows.map Row.id = m.records.map Record.id := by
    rw [h.rows, List.map_map]
    rfl
  have hrow : (Row.ofRecord r).id ∉ t.rows.map Row.id := by
    rw [hids]
    exact Memory.get?_eq_none_iff.mp hid
  have hput := Memory.records_put hid
  refine ⟨_, dif_neg hrow, ?_, ?_⟩
  · rw [hput, List.map_append, ← h.rows]
    rfl
  · intro x hx
    rw [hput] at hx
    rcases List.mem_append.mp hx with hold | hnew
    · exact h.whole x hold
    · exact List.mem_singleton.mp hnew ▸ hwhole

end Mirrors

/-- The table mirrors a memory whose records are counted. -/
structure Agrees (m : Memory) (t : Table) : Prop where
  rows : t.rows = m.records.map Row.ofRecord
  whole : ∀ r ∈ m.records, r.Whole
  counted : m.Counted

namespace Agrees

variable {m : Memory} {t : Table}

theorem mirrors (h : Agrees m t) : Mirrors m t := ⟨h.rows, h.whole⟩

theorem empty : Agrees {} {} where
  rows := rfl
  whole := by simp
  counted := by simp [Memory.Counted]

theorem find? (h : Agrees m t) (id : String) :
    t.find? id = (m.get? id).map Row.ofRecord := h.mirrors.find? id

theorem get (h : Agrees m t) (id : String) :
    Database.get ⟨t, false⟩ id = .ok (m.get? id) := h.mirrors.get id

/-- Writing a record back over the one of its id. -/
theorem replace (h : Agrees m t) {old new : Record} (hold : old ∈ m.records)
    (hkept : Record.Kept old new) : Agrees (m.replace new) (t.update new) := by
  have hmirrors := h.mirrors.replace hold hkept.same (hkept.whole (h.whole old hold))
  refine ⟨hmirrors.rows, hmirrors.whole, ?_⟩
  intro r hr
  rw [Memory.records_replace] at hr
  obtain ⟨x, hx, rfl⟩ := List.mem_map.mp hr
  split
  · exact hkept.counted (h.counted old hold)
  · exact h.counted x hx

/-- Adding a record behind all others. -/
theorem insert (h : Agrees m t) {r : Record} (hid : m.get? r.id = none) (hwhole : r.Whole)
    (hcounted : r.Counted) :
    ∃ t', t.insert (Row.ofRecord r) = .ok t' ∧ Agrees (m.put r) t' := by
  obtain ⟨t', hinsert, hmirrors⟩ := h.mirrors.insert hid hwhole
  refine ⟨t', hinsert, hmirrors.rows, hmirrors.whole, ?_⟩
  intro x hx
  rw [Memory.records_put hid] at hx
  rcases List.mem_append.mp hx with hold | hnew
  · exact h.counted x hold
  · exact List.mem_singleton.mp hnew ▸ hcounted

end Agrees

/-! ### Changes of one record -/

theorem Memory.replace_self {m : Memory} {r : Record} (hr : r ∈ m.records) :
    m.replace r = m := by
  refine eq_of_records_eq ?_
  rw [records_replace]
  refine (List.map_congr_left fun x hx => ?_).trans (List.map_id _)
  by_cases hid : x.id = r.id
  · rw [if_pos hid]
    exact eq_of_id_eq hr hx hid.symm
  · exact if_neg hid

section Change

variable {m : Memory} {t : Table}

/-- A change of one record, when what is reported as unchanged is so. -/
theorem change_agrees {α : Type} (h : Agrees m t) (id : String) (f : Record → Bool × α × Record)
    (hkept : ∀ r, Record.Kept r (f r).2.2) (hsame : ∀ r, (f r).1 = false → (f r).2.2 = r) :
    ∃ t', Transaction.change id f t = .ok ((m.update id fun r => (f r).2).1, t')
      ∧ Agrees (m.update id fun r => (f r).2).2 t' := by
  unfold Transaction.change Memory.update
  rw [h.find? id]
  cases hr : m.get? id with
  | none => exact ⟨t, rfl, h⟩
  | some r =>
    have hmem := Memory.mem_of_get? hr
    simp only [Option.map_some]
    rw [Row.read_ofRecord (h.whole r hmem)]
    refine ⟨_, rfl, ?_⟩
    cases hchanged : (f r).1 with
    | true =>
      rw [if_pos rfl]
      exact h.replace hmem (hkept r)
    | false =>
      rw [if_neg Bool.false_ne_true, hsame r hchanged, Memory.replace_self hmem]
      exact h

/-- A change that answers whether it was made. -/
theorem changeIf_agrees (h : Agrees m t) (id : String) (f : Record → Bool × Record)
    (hkept : ∀ r, Record.Kept r (f r).2) (hsame : ∀ r, (f r).1 = false → (f r).2 = r) :
    ∃ t', Transaction.changeIf id f t = .ok ((m.update id f).1.getD false, t')
      ∧ Agrees (m.update id f).2 t' := by
  obtain ⟨t', hchange, hagrees⟩ :=
    change_agrees h id (fun r => ((f r).1, (f r).1, (f r).2)) hkept hsame
  refine ⟨t', ?_, hagrees⟩
  unfold Transaction.changeIf
  dsimp only
  rw [hchange]
  rfl

end Change

/-! ### Selections -/

theorem Status.name_injective : Function.Injective Status.name := by
  intro a b hab
  have hname := congrArg Status.ofName? hab
  rw [ofName?_name, ofName?_name] at hname
  exact Option.some.inj hname

theorem Status.contains_map_name (statuses : List Status) (s : Status) :
    (statuses.map Status.name).contains s.name = statuses.contains s := by
  rw [Bool.eq_iff_iff, List.contains_iff_mem, List.contains_iff_mem,
    List.mem_map_of_injective name_injective]

section Selection

variable {m : Memory} {t : Table}

/-- Rows are sorted as the records are. -/
theorem mergeSort_rows {records : List Record} (h : ∀ r ∈ records, r.Whole) :
    (records.map Row.ofRecord).mergeSort (fun a b => a.createdAt.le b.createdAt)
      = (records.mergeSort fun a b => a.createdAt.le b.createdAt).map Row.ofRecord := by
  refine (List.map_mergeSort fun a ha b hb => ?_).symm
  obtain ⟨ca, hca⟩ := (h a ha).createdAt
  obtain ⟨cb, hcb⟩ := (h b hb).createdAt
  dsimp only [Row.ofRecord]
  rw [hca, hcb, Cell.le_ofTime]

theorem Listing.page_map {α β : Type} (l : Listing) (f : α → β) (items : List α) :
    l.page (items.map f) = (l.page items).map f := by
  unfold page
  split
  · rw [List.map_drop]
  · rw [List.map_take, List.map_drop]

theorem Listing.mem_of_mem_page {α : Type} {l : Listing} {items : List α} {a : α}
    (h : a ∈ l.page items) : a ∈ items := by
  unfold page at h
  split at h
  · exact List.mem_of_mem_drop h
  · exact List.mem_of_mem_drop (List.mem_of_mem_take h)

namespace Mirrors

/-- The rows in some statuses are those of the records in them. -/
theorem records (h : Mirrors m t) (statuses : List Status) :
    Transaction.records statuses t
      = .ok (m.oldestFirst.filter fun r => statuses.contains r.status) := by
  have hwhole : ∀ r ∈ m.oldestFirst.filter fun r => statuses.contains r.status, r.Whole :=
    fun r hr => h.whole r (m.oldestFirst_perm.mem_iff.mp (List.mem_of_mem_filter hr))
  have hfilter : (fun row : Row => (statuses.map Status.name).contains row.status) ∘ Row.ofRecord
      = fun r => statuses.contains r.status := by
    funext r
    exact Status.contains_map_name statuses r.status
  unfold Transaction.records Table.inStatus Table.oldestFirst
  rw [h.rows, mergeSort_rows h.whole, List.filter_map, hfilter, ← Memory.oldestFirst,
    Row.mapM_read hwhole]
  rfl

/-- The database lists the records that the memory lists. -/
theorem list (h : Mirrors m t) (l : Listing) :
    orFault ((t.select l).mapM Row.read) = .ok (m.list l) := by
  have hfilter : Table.selects l ∘ Row.ofRecord = fun r => l.admits r.taskType r.status := by
    funext r
    simp only [Function.comp_apply, Table.selects, Listing.admits, Row.ofRecord,
      Status.contains_map_name]
  -- The memory sorts before it filters, the database filters before it sorts.
  have hsorted : m.oldestFirst.filter (fun r => l.admits r.taskType r.status)
      = (m.records.filter fun r => l.admits r.taskType r.status).mergeSort
          fun a b => a.createdAt.le b.createdAt :=
    filter_mergeSort (fun a b c => Instant.le_trans a.createdAt b.createdAt c.createdAt)
      (fun a b => Instant.le_total a.createdAt b.createdAt) _ _
  have hselect : t.select l = (m.list l).map Row.ofRecord := by
    unfold Table.select Memory.list
    rw [h.rows, List.filter_map, hfilter, mergeSort_rows fun r hr =>
      h.whole r (List.mem_of_mem_filter hr), ← hsorted, ← List.map_reverse, Listing.page_map,
      List.filter_reverse]
  have hwhole : ∀ r ∈ m.list l, r.Whole := by
    intro r hr
    have hr' := List.mem_reverse.mp (List.mem_of_mem_filter (Listing.mem_of_mem_page hr))
    exact h.whole r (m.oldestFirst_perm.mem_iff.mp hr')
  rw [hselect, Row.mapM_read hwhole]
  rfl

end Mirrors

namespace Agrees

theorem records (h : Agrees m t) (statuses : List Status) :
    Transaction.records statuses t
      = .ok (m.oldestFirst.filter fun r => statuses.contains r.status) := h.mirrors.records statuses

theorem list (h : Agrees m t) (l : Listing) :
    orFault ((t.select l).mapM Row.read) = .ok (m.list l) := h.mirrors.list l

end Agrees

end Selection

/-! ### Loops

Both loops run over records that are current when the loop begins. The ids are distinct, so those
that are still to come stay current. -/

section Loop

/-- The memory holds each of some records of distinct ids. -/
structure Current (m : Memory) (rs : List Record) : Prop where
  nodup : (rs.map Record.id).Nodup
  get? : ∀ r ∈ rs, m.get? r.id = some r

theorem Current.tail {m : Memory} {r : Record} {rs : List Record} (h : Current m (r :: rs)) :
    Current m rs :=
  ⟨(List.nodup_cons.mp h.nodup).2, fun x hx => h.get? x (List.mem_cons_of_mem r hx)⟩

/-- Replacing a record leaves the others current. -/
theorem Current.tail_replace {m : Memory} {r new : Record} {rs : List Record}
    (h : Current m (r :: rs)) (hid : new.id = r.id) : Current (m.replace new) rs where
  nodup := h.tail.nodup
  get? := by
    intro x hx
    have hne : ¬ new.id = x.id := by
      rw [hid]
      intro heq
      exact (List.nodup_cons.mp h.nodup).1 (heq ▸ List.mem_map_of_mem hx)
    rw [Memory.get?_replace, if_neg hne]
    exact h.tail.get? x hx

theorem Memory.current_oldestFirst (m : Memory) : Current m m.oldestFirst :=
  ⟨m.snapshot_nodup, fun _ hr => get?_of_mem (m.oldestFirst_perm.mem_iff.mp hr)⟩

/-- The database offers the runnable records alone; a memory passes the others by. -/
theorem offerAll_mirrors (node : String) (policy : FailoverPolicy) (clock : Readings)
    (rs : List Record) {m : Memory} {t : Table} (h : Mirrors m t) (hrs : Current m rs)
    (hfit : ∀ r ∈ rs, ∀ new, r.offer node policy (clock r.id).toInstant ≠ .overflowed new) :
    ∃ a t', Transaction.offerAll node policy clock
          (rs.filter fun r => [Status.new, .failover].contains r.status) t = .ok (a, t')
      ∧ (m.scan node policy clock (rs.map Record.id)).1 = .ok a
      ∧ Mirrors (m.scan node policy clock (rs.map Record.id)).2 t' := by
  induction rs generalizing m t with
  | nil => exact ⟨none, t, rfl, rfl, h⟩
  | cons r rs ih =>
    have hget := hrs.get? r List.mem_cons_self
    have hmem := Memory.mem_of_get? hget
    have hfit' := fun x hx => hfit x (List.mem_cons_of_mem r hx)
    have hsame := r.sameTask_offered node policy (clock r.id).toInstant
    have hwhole := Record.whole_offered (h.whole r hmem) node policy
      (clock r.id).isReading_toInstant
    rw [List.map_cons, List.filter_cons, Memory.scan, Memory.scanOne, hget]
    by_cases hs : [Status.new, .failover].contains r.status = true
    · rw [if_pos hs, Transaction.offerAll]
      dsimp only [Record.offered] at hsame hwhole ⊢
      cases ho : r.offer node policy (clock r.id).toInstant with
      | passed => exact ih h hrs.tail hfit'
      | canceled new =>
        rw [ho] at hsame hwhole
        exact ih (h.replace hmem hsame hwhole) (hrs.tail_replace hsame.id) hfit'
      | taken new =>
        rw [ho] at hsame hwhole
        exact ⟨some new, t.update new, rfl, rfl, h.replace hmem hsame hwhole⟩
      | overflowed new => exact absurd ho (hfit r List.mem_cons_self new)
    -- The database does not select the record, and the memory passes it by.
    · have hrunnable : r.status.isRunnable = false := by
        cases hst : r.status <;> simp [hst] at hs <;> rfl
      rw [if_neg hs]
      dsimp only
      rw [Record.offer_of_not_isRunnable node policy _ hrunnable]
      exact ih h hrs.tail hfit'

/-- Among counted records no offer overflows, and they stay counted. -/
theorem offerAll_agrees (node : String) (policy : FailoverPolicy) (clock : Readings)
    (rs : List Record) {m : Memory} {t : Table} (h : Agrees m t) (hrs : Current m rs) :
    ∃ a t', Transaction.offerAll node policy clock
          (rs.filter fun r => [Status.new, .failover].contains r.status) t = .ok (a, t')
      ∧ (m.scan node policy clock (rs.map Record.id)).1 = .ok a
      ∧ Agrees (m.scan node policy clock (rs.map Record.id)).2 t' := by
  have hfit : ∀ r ∈ rs, ∀ new, r.offer node policy (clock r.id).toInstant ≠ .overflowed new := by
    intro r hr
    exact (h.counted r (Memory.mem_of_get? (hrs.get? r hr))).offer_ne_overflowed node policy _
  obtain ⟨a, t', hoffer, hscan, hmirrors⟩ :=
    offerAll_mirrors node policy clock rs h.mirrors hrs hfit
  obtain ⟨reached, -, hrecords, -⟩ :=
    Memory.scan_effect node policy clock (rs.map Record.id) hrs.nodup h.counted
  refine ⟨a, t', hoffer, hscan, hmirrors.rows, hmirrors.whole, ?_⟩
  refine h.counted.of_map hrecords fun r hr => ?_
  split
  · exact Record.counted_offered hr node policy _
  · exact hr

/-- The database sweeps the running records alone; a memory leaves the others as they are. -/
theorem sweep_mirrors (node : String) (listed : List String) (timeout : Duration)
    (clock : Readings) (rs : List Record) {m : Memory} {t : Table} (h : Mirrors m t)
    (hrs : Current m rs) :
    Mirrors (m.sweep node listed timeout clock (rs.map Record.id))
      ((rs.filter fun r => [Status.running].contains r.status).foldl
        (Transaction.sweepOne node listed timeout clock) t) := by
  induction rs generalizing m t with
  | nil => exact h
  | cons r rs ih =>
    have hget := hrs.get? r List.mem_cons_self
    have hmem := Memory.mem_of_get? hget
    have hkept := r.kept_checkHeartbeat node listed timeout (clock r.id)
    have hlook : Memory.sweepOne node listed timeout (clock r.id).toInstant m r.id
        = m.replace (r.checkHeartbeat node listed timeout (clock r.id).toInstant).2 := by
      rw [Memory.sweepOne, Memory.update, hget]
    have hrest := ih (h.replace hmem hkept.same (hkept.whole (h.whole r hmem)))
      (hrs.tail_replace hkept.same.id)
    unfold Memory.sweep at ih hrest ⊢
    rw [List.map_cons, List.foldl_cons, List.filter_cons, hlook]
    by_cases hs : [Status.running].contains r.status = true
    · rw [if_pos hs, List.foldl_cons, Transaction.sweepOne]
      generalize hout : r.checkHeartbeat node listed timeout (clock r.id).toInstant = out at *
      obtain ⟨what, new⟩ := out
      cases what with
      | refreshed => exact hrest
      | failedOver => exact hrest
      | untouched =>
        -- The database writes nothing here, where the memory writes the same record again.
        have hsame : new = r := by
          have huntouched := Record.checkHeartbeat_untouched (congrArg Prod.fst hout)
          rwa [hout] at huntouched
        subst hsame
        rw [Memory.replace_self hmem]
        exact ih h hrs.tail
    · have hstatus : r.status ≠ .running := by
        intro hst
        rw [hst] at hs
        exact hs rfl
      rw [if_neg hs, Record.checkHeartbeat_of_not_running hstatus, Memory.replace_self hmem]
      exact ih h hrs.tail

/-- A sweep leaves counted records counted. -/
theorem sweep_agrees (node : String) (listed : List String) (timeout : Duration)
    (clock : Readings) (rs : List Record) {m : Memory} {t : Table} (h : Agrees m t)
    (hrs : Current m rs) :
    Agrees (m.sweep node listed timeout clock (rs.map Record.id))
      ((rs.filter fun r => [Status.running].contains r.status).foldl
        (Transaction.sweepOne node listed timeout clock) t) := by
  have hmirrors := sweep_mirrors node listed timeout clock rs h.mirrors hrs
  refine ⟨hmirrors.rows, hmirrors.whole, ?_⟩
  refine h.counted.of_map (Memory.sweep_ids_records clock _ hrs.nodup m) fun r hr => ?_
  split
  · exact Record.counted_checkHeartbeat hr node listed timeout _
  · exact hr

end Loop

/-! ### Calls -/

namespace Database

variable {α : Type} {t t' : Table} {work : Transaction α}

theorem write_ok {a : α} (h : work t = .ok (a, t')) (busy : Except Abort α) :
    write ⟨t, false⟩ busy work = (.ok a, ⟨t', false⟩) := by
  unfold write
  rw [if_neg Bool.false_ne_true]
  dsimp only
  rw [h]

theorem write_error {e : Abort} (h : work t = .error e) (busy : Except Abort α) :
    write ⟨t, false⟩ busy work = (.error e, ⟨t, false⟩) := by
  unfold write
  rw [if_neg Bool.false_ne_true]
  dsimp only
  rw [h]

end Database

/-- The id that a call creates, if it creates one. -/
def Call.created? : Call → Option String
  | .create id .. => some id
  | _ => none

section Calls

variable {m : Memory} {t : Table}

theorem log_agrees (h : Agrees m t) (id line : String) (policy : FailoverPolicy)
    (clock : Readings) :
    ∃ t', (Database.mk t false).performAt policy clock (.log id line)
        = ((m.performAt policy clock (.log id line)).1, ⟨t', false⟩)
      ∧ Agrees (m.performAt policy clock (.log id line)).2 t' := by
  obtain ⟨t', hchange, hagrees⟩ :=
    change_agrees h id (fun r => ((r.appendLog line).log != r.log, (), r.appendLog line))
      (fun r => r.kept_appendLog line) (by
        intro r hsame
        have hlog : (r.appendLog line).log = r.log := by simpa using hsame
        cases r
        simpa [Record.appendLog] using hlog)
  have hlog : Transaction.log id line t
      = match (m.update id fun r => ((), r.appendLog line)).1 with
        | some _ => .ok ((), t')
        | none => .error (.failure (.taskNotFound id)) := by
    unfold Transaction.log
    dsimp only
    rw [hchange]
    cases (m.update id fun r => ((), r.appendLog line)).1 <;> rfl
  dsimp only [Database.performAt, Memory.performAt]
  rw [Memory.update_fst] at hlog
  cases hget : m.get? id with
  | none =>
    have hupdate : (m.update id fun r => ((), r.appendLog line)) = (none, m) := by
      rw [Memory.update, hget]
    rw [hget] at hlog
    rw [hupdate, Database.write_error hlog]
    exact ⟨t, rfl, h⟩
  | some r =>
    have hupdate : (m.update id fun r => ((), r.appendLog line))
        = (some (), m.replace (r.appendLog line)) := by
      rw [Memory.update, hget]
    rw [hget] at hlog
    rw [hupdate] at hagrees ⊢
    rw [Database.write_ok hlog]
    exact ⟨t', rfl, hagrees⟩

/-- Each call answers the same on both sides and keeps the relation. -/
theorem performAt_agrees (policy : FailoverPolicy) (clock : Readings) (h : Agrees m t) (c : Call)
    (hfresh : ∀ id ∈ c.created?, m.get? id = none) :
    ∃ t', (Database.mk t false).performAt policy clock c
        = ((m.performAt policy clock c).1, ⟨t', false⟩)
      ∧ Agrees (m.performAt policy clock c).2 t' := by
  cases c with
  | create id taskType config =>
    have hwhole := Record.whole_fresh id taskType config (clock id).isReading_toInstant
    have hcounted := Record.counted_fresh id taskType config (clock id).toInstant
    obtain ⟨t', hinsert, hagrees⟩ := h.insert (hfresh id rfl) hwhole hcounted
    refine ⟨t', Database.write_ok ?_ _, hagrees⟩
    rw [Transaction.insert, hinsert]
    rfl
  | list l => exact ⟨t, Prod.ext (h.list l) rfl, h⟩
  | get id => exact ⟨t, Prod.ext (h.get id) rfl, h⟩
  | requestCancel id =>
    obtain ⟨t', hchange, hagrees⟩ := changeIf_agrees h id Record.requestCancel
      Record.kept_requestCancel fun r => Record.requestCancel_refused
    exact ⟨t', Database.write_ok hchange _, hagrees⟩
  | change id next message =>
    obtain ⟨t', hchange, hagrees⟩ := changeIf_agrees h id
      (fun r => r.changeStatus next message (clock id).toInstant)
      (fun r => r.kept_changeStatus next message (clock id)) fun r => Record.changeStatus_refused
    exact ⟨t', Database.write_ok hchange _, hagrees⟩
  | changeFor id claim next message =>
    obtain ⟨t', hchange, hagrees⟩ := changeIf_agrees h id
      (fun r => r.changeStatusFor claim next message (clock id).toInstant)
      (fun r => r.kept_changeStatusFor claim next message (clock id))
      fun r => Record.changeStatusFor_refused
    exact ⟨t', Database.write_ok hchange _, hagrees⟩
  | log id line => exact log_agrees h id line policy clock
  | claim node =>
    obtain ⟨a, t', hoffer, hscan, hagrees⟩ :=
      offerAll_agrees node policy clock m.oldestFirst h m.current_oldestFirst
    refine ⟨t', ?_, hagrees⟩
    have hclaim : Transaction.claim node policy clock t = .ok (a, t') := by
      unfold Transaction.claim
      rw [h.records]
      exact hoffer
    have hanswer : (m.performAt policy clock (.claim node)).1 = .ok a := hscan
    rw [hanswer]
    exact Database.write_ok hclaim _
  | heartbeat node ids timeout =>
    have hagrees := sweep_agrees node ids timeout clock m.oldestFirst h m.current_oldestFirst
    refine ⟨_, Database.write_ok ?_ _, hagrees⟩
    unfold Transaction.heartbeat
    rw [h.records]
    rfl

end Calls

/-! ### Histories -/

/-- Calls in their order, each with what the clock shows while it runs. -/
abbrev History := List (Readings × Call)

/-- A call with what it answered. -/
abbrev Answer := (c : Call) × Except Abort c.Result

namespace History

/-- The ids that a history creates. -/
def created (h : History) : List String := h.filterMap fun e => e.2.created?

/-- Runs a history on a store that answers calls in some way. -/
def run {S : Type} (answer : Readings → S → (c : Call) → Except Abort c.Result × S) :
    History → S → List Answer × S
  | [], s => ([], s)
  | (clock, c) :: rest, s =>
    let (a, s) := answer clock s c
    let (as, s) := run answer rest s
    (⟨c, a⟩ :: as, s)

end History

/-- A call brings no id into a memory but the one that it creates. -/
theorem Memory.get?_performAt_eq_none (policy : FailoverPolicy) (clock : Readings) {m : Memory}
    (hm : m.Counted) {c : Call} {id : String} (hc : c.created? ≠ some id)
    (hid : m.get? id = none) : (m.performAt policy clock c).2.get? id = none := by
  by_cases hcreate : c.operation = .create
  · cases c with
    | create id' taskType config =>
      have hne : id' ≠ id := fun heq => hc (congrArg some heq)
      have hmem : id ∉ m.records.map Record.id := get?_eq_none_iff.mp hid
      rw [get?_eq_none_iff]
      dsimp only [performAt, put]
      split
      · rw [replace, map_id_replaced]
        exact hmem
      · rw [List.map_append, List.mem_append, not_or]
        refine ⟨hmem, ?_⟩
        simpa [Record.fresh] using Ne.symm hne
    | _ => cases hcreate
  · obtain ⟨reached, hrecords⟩ := performAt_records policy clock hm hcreate
    rw [get?_of_records_eq (fun r => (Record.sameTask_after policy clock reached c r).id)
      hrecords, hid]
    rfl

/-- Histories that create distinct new ids answer the same on both sides and keep the relation. -/
theorem History.run_agrees (policy : FailoverPolicy) (history : History) {m : Memory} {t : Table}
    (h : Agrees m t) (hnodup : history.created.Nodup)
    (hfresh : ∀ id ∈ history.created, m.get? id = none) :
    ∃ t', history.run (Database.performAt policy) ⟨t, false⟩
        = ((history.run (Memory.performAt policy) m).1, ⟨t', false⟩)
      ∧ Agrees (history.run (Memory.performAt policy) m).2 t' := by
  induction history generalizing m t with
  | nil => exact ⟨t, rfl, h⟩
  | cons e rest ih =>
    obtain ⟨clock, c⟩ := e
    have hcreated : created ((clock, c) :: rest) = c.created?.toList ++ created rest := by
      unfold created
      rw [List.filterMap_cons]
      cases c.created? <;> rfl
    rw [hcreated] at hnodup hfresh
    obtain ⟨-, hrest, hdisjoint⟩ := List.nodup_append.mp hnodup
    obtain ⟨t₁, hcall, hagrees₁⟩ := performAt_agrees policy clock h c fun id hid =>
      hfresh id (List.mem_append_left _ (Option.mem_toList.mpr hid))
    obtain ⟨t', hrun, hagrees⟩ := ih hagrees₁ hrest fun id hid => by
      refine Memory.get?_performAt_eq_none policy clock h.counted ?_
        (hfresh id (List.mem_append_right _ hid))
      intro hc
      exact hdisjoint id (Option.mem_toList.mpr hc) id hid rfl
    refine ⟨t', ?_, hagrees⟩
    unfold run
    rw [hcall]
    dsimp only
    rw [hrun]

/-- **The two kinds of stores agree.** From empty stores, whatever the calls, the policy and the
readings of the clock, every answer is the same, and so is every record and every listing
afterwards. -/
theorem History.stores_agree (policy : FailoverPolicy) (history : History)
    (hnodup : history.created.Nodup) :
    let inMemory := history.run (Memory.performAt policy) {}
    let inDatabase := history.run (Database.performAt policy) {}
    inDatabase.1 = inMemory.1
      ∧ (∀ id, inDatabase.2.get id = .ok (inMemory.2.get? id))
      ∧ ∀ l, inDatabase.2.list l = .ok (inMemory.2.list l) := by
  obtain ⟨t', hrun, hagrees⟩ := run_agrees policy history Agrees.empty hnodup fun _ _ => rfl
  dsimp only
  rw [hrun]
  exact ⟨rfl, hagrees.get, hagrees.list⟩

theorem History.stores_agree_on_two_tasks :
    let history : History :=
      [(fun _ => .epoch, .create "a" "noop" none), (fun _ => .epoch, .create "b" "noop" none),
        (fun _ => .epoch, .claim "n"), (fun _ => .epoch, .heartbeat "n" ["a"] ⟨0⟩)]
    history.created.Nodup
      ∧ (history.run (Database.performAt {}) {}).1 = (history.run (Memory.performAt {}) {}).1 :=
  ⟨by decide, (stores_agree {} _ (by decide)).1⟩

end TaskCluster
