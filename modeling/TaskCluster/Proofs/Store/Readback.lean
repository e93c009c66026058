import Mathlib
import TaskCluster.Proofs.Store.MemoryEffect
import TaskCluster.Proofs.Store.Order

/-!
# Rows read back as their records

A row keeps times in whole milliseconds, so it reads back as its record exactly when the times of
the record are clock readings. Such records are `Whole`. Every time that a call writes is a clock
reading, so calls keep records whole.
-/

namespace TaskCluster

/-- Is the instant what a clock can show? -/
def Instant.IsReading (t : Instant) : Prop := ∃ c : ClockTime, t = c.toInstant

theorem ClockTime.isReading_toInstant (c : ClockTime) : c.toInstant.IsReading := ⟨c, rfl⟩

namespace Record

/-- All times of the record are clock readings. -/
structure Whole (r : Record) : Prop where
  createdAt : r.createdAt.IsReading
  startedAt : ∀ t ∈ r.startedAt, t.IsReading
  finishedAt : ∀ t ∈ r.finishedAt, t.IsReading

/-! ### Calls keep records whole -/

section Whole

variable {r : Record} {now : Instant}

theorem whole_fresh (id taskType : String) (config : Option Json.Object) (h : now.IsReading) :
    (fresh id taskType config now).Whole := by
  refine ⟨h, ?_, ?_⟩ <;> intro t ht <;> cases ht

theorem whole_requestCancel (h : r.Whole) : r.requestCancel.2.Whole := by
  unfold requestCancel
  split
  · exact h
  · exact ⟨h.createdAt, h.startedAt, h.finishedAt⟩

theorem whole_changeStatus (h : r.Whole) (next : Status) (message : Option String)
    (hnow : now.IsReading) : (r.changeStatus next message now).2.Whole := by
  unfold changeStatus
  split
  · refine ⟨h.createdAt, h.startedAt, ?_⟩
    intro t ht
    dsimp only [moved] at ht
    split at ht
    · obtain rfl := Option.some.inj ht
      exact hnow
    · exact h.finishedAt t ht
  · exact h

theorem whole_changeStatusFor (h : r.Whole) (c : Claim) (next : Status)
    (message : Option String) (hnow : now.IsReading) :
    (r.changeStatusFor c next message now).2.Whole := by
  unfold changeStatusFor
  split
  · exact whole_changeStatus h next message hnow
  · exact h

theorem whole_checkHeartbeat (h : r.Whole) (node : String) (ids : List String)
    (timeout : Duration) (hnow : now.IsReading) :
    (r.checkHeartbeat node ids timeout now).2.Whole := by
  have hchange := whole_changeStatus h .failover (some (r.staleMessage node now)) hnow
  unfold checkHeartbeat
  split
  · exact h
  split
  · exact ⟨h.createdAt, h.startedAt, h.finishedAt⟩
  split
  · dsimp only
    split <;> exact hchange
  · exact h

theorem whole_offered (h : r.Whole) (node : String) (policy : FailoverPolicy)
    (hnow : now.IsReading) : (r.offered node policy now).Whole := by
  have hbegun : ∀ t ∈ some now, t.IsReading := by
    intro t ht
    obtain rfl := Option.some.inj ht
    exact hnow
  unfold offered
  cases ho : r.offer node policy now with
  | passed => exact h
  | canceled new =>
    obtain ⟨-, -, -, hstarted, hfinished, hsame⟩ := of_offer_canceled ho
    have hcreated := hsame.createdAt
    exact ⟨hcreated ▸ h.createdAt, hstarted ▸ h.startedAt, hfinished ▸ h.finishedAt⟩
  | taken new =>
    obtain ⟨-, rfl, -⟩ := of_offer_taken ho
    exact ⟨h.createdAt, hbegun, fun t ht => nomatch ht⟩
  | overflowed new =>
    obtain rfl := of_offer_overflowed ho
    exact ⟨h.createdAt, hbegun, fun t ht => nomatch ht⟩

end Whole

end Record

/-! ### Reading single cells -/

theorem Status.parse_name (s : Status) : Status.parse s.name = .ok s := by
  cases s <;> decide +kernel

namespace Column

variable (column : Column)

/-- A time reads back as the clock reading of its milliseconds. -/
theorem time_ofTime {t : Instant} {c : ClockTime} (h : ClockTime.ofMillis? t.millis = some c) :
    column.time (Cell.ofTime t) = .ok c.toInstant := by
  have hmillis := ClockTime.ofMillis?_eq_some_iff.mp h
  have hback : (Int64.ofInt t.millis).toInt = t.millis := by
    rw [← hmillis]
    exact c.toInt_ofInt_millis
  have hint : column.int (Cell.ofTime t) = .ok (Int64.ofInt t.millis) := rfl
  simp only [time, hint, bind, Except.bind, hback, h]

theorem time_ofTime_of_isReading {t : Instant} (h : t.IsReading) :
    column.time (Cell.ofTime t) = .ok t := by
  obtain ⟨c, rfl⟩ := h
  refine column.time_ofTime ?_
  rw [c.millis_toInstant]
  exact c.ofMillis?_millis

theorem time?_ofTime? {t : Option Instant} (h : ∀ x ∈ t, x.IsReading) :
    column.time? (Cell.ofTime? t) = .ok t := by
  cases t with
  | none => rfl
  | some t =>
    have ht := column.time_ofTime_of_isReading (h t rfl)
    change (column.time (Cell.ofTime t)).map some = _
    rw [ht]
    rfl

theorem counter_ofCounter (n : UInt32) : column.counter (Cell.ofCounter n) = .ok n := by
  have hlt : n.toNat < 2 ^ 32 := n.toNat_lt
  have hback : (Int64.ofNat n.toNat).toInt = n.toNat := Int64.toInt_ofNat_of_lt (by omega)
  have hint : column.int (Cell.ofCounter n) = .ok (Int64.ofNat n.toNat) := rfl
  have hrange : (0 : Int) ≤ n.toNat ∧ (n.toNat : Int) < UInt32.size := by
    simp only [UInt32.size]
    omega
  simp only [counter, hint, bind, Except.bind, hback, if_pos hrange, Int.toNat_natCast,
    UInt32.ofNat_toNat]

theorem flag_ofFlag (b : Bool) : column.flag (Cell.ofFlag b) = .ok b := by
  cases b <;> rfl

end Column

/-! ### Reading rows -/

namespace Row

/-- The row of a whole record reads back as the record. -/
theorem read_ofRecord {r : Record} (h : r.Whole) : (ofRecord r).read = .ok r := by
  have hstatus : (ofRecord r).readStatus = .ok r.status := by
    unfold readStatus
    dsimp only [ofRecord]
    rw [r.status.parse_name]
  unfold read
  rw [hstatus]
  dsimp only [ofRecord]
  rw [Column.time_ofTime_of_isReading _ h.createdAt, Column.time?_ofTime? _ h.startedAt,
    Column.time?_ofTime? _ h.finishedAt, Column.counter_ofCounter, Column.flag_ofFlag]
  rfl

/-- Writing a record of the same task into a row leaves the row of that record. -/
theorem write_ofRecord {old new : Record} (h : Record.SameTask old new) :
    (ofRecord old).write new = ofRecord new := by
  simp only [write, ofRecord, h.id, h.taskType, h.config, h.createdAt]

/-- Rows of whole records read back as the records. -/
theorem mapM_read {records : List Record} (h : ∀ r ∈ records, r.Whole) :
    (records.map ofRecord).mapM read = .ok records := by
  induction records with
  | nil => rfl
  | cons r records ih =>
    rw [List.map_cons, List.mapM_cons, read_ofRecord (h r List.mem_cons_self),
      ih fun x hx => h x (List.mem_cons_of_mem r hx)]
    rfl

end Row

end TaskCluster
