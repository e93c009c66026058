import Mathlib
import TaskCluster.Proofs.Store.Readback
import TaskCluster.Store.Database

/-!
# What a write does to the rows of a table

A row may spell its status in many ways, and some rows cannot be read at all. `Table.record?` is the
record of an id if its row can be read. A record that was read has whole times
(`Row.whole_of_read`), and what is written over it reads back as it was written
(`Row.read_write`), however the row was spelled before. So an update shows in the records of any
table as the replacement of one record (`Table.record?_update`), and rows that cannot be read stay
out of sight.
-/

namespace TaskCluster

theorem bind_eq_ok_iff {ε α β : Type} {x : Except ε α} {f : α → Except ε β} {b : β} :
    (x >>= f) = .ok b ↔ ∃ a, x = .ok a ∧ f a = .ok b := by
  cases x <;> simp [bind, Except.bind]

/-! ### What was read -/

namespace Column

variable {column : Column} {c : Cell}

theorem isReading_of_time {t : Instant} (h : column.time c = .ok t) : t.IsReading := by
  obtain ⟨i, -, h⟩ := bind_eq_ok_iff.mp h
  split at h
  · obtain rfl := Except.ok.inj h
    exact ClockTime.isReading_toInstant _
  · cases h

theorem isReading_of_time? {t : Option Instant} (h : column.time? c = .ok t) :
    ∀ x ∈ t, x.IsReading := by
  unfold time? at h
  split at h
  · obtain rfl := Except.ok.inj h
    intro x hx
    cases hx
  · cases hc : column.time c with
    | error e =>
      rw [hc] at h
      cases h
    | ok x =>
      rw [hc] at h
      obtain rfl := Except.ok.inj h
      intro y hy
      obtain rfl := Option.some.inj hy
      exact isReading_of_time hc

end Column

namespace Row

variable {row : Row} {r : Record}

/-- Inverts the reading of a row. -/
theorem of_read (h : row.read = .ok r) :
    r.id = row.id ∧ r.taskType = row.taskType ∧ r.config = row.config
      ∧ Column.createdAt.time row.createdAt = .ok r.createdAt
      ∧ Column.startedAt.time? row.startedAt = .ok r.startedAt
      ∧ Column.finishedAt.time? row.finishedAt = .ok r.finishedAt := by
  obtain ⟨status, -, h⟩ := bind_eq_ok_iff.mp h
  obtain ⟨createdAt, hcreated, h⟩ := bind_eq_ok_iff.mp h
  obtain ⟨startedAt, hstarted, h⟩ := bind_eq_ok_iff.mp h
  obtain ⟨finishedAt, hfinished, h⟩ := bind_eq_ok_iff.mp h
  obtain ⟨runCount, -, h⟩ := bind_eq_ok_iff.mp h
  obtain ⟨heartbeat, -, h⟩ := bind_eq_ok_iff.mp h
  obtain ⟨cancelRequested, -, h⟩ := bind_eq_ok_iff.mp h
  obtain rfl := Except.ok.inj h
  exact ⟨rfl, rfl, rfl, hcreated, hstarted, hfinished⟩

/-- The times of a record that was read are whole. -/
theorem whole_of_read (h : row.read = .ok r) : r.Whole := by
  obtain ⟨-, -, -, hcreated, hstarted, hfinished⟩ := of_read h
  exact ⟨Column.isReading_of_time hcreated, Column.isReading_of_time? hstarted,
    Column.isReading_of_time? hfinished⟩

/-- A record of the same task that is written over a row reads back as it was written. -/
theorem read_write {new : Record} (h : row.read = .ok r) (hsame : Record.SameTask r new)
    (hnew : new.Whole) : (row.write new).read = .ok new := by
  obtain ⟨hid, htype, hconfig, hcreated, -, -⟩ := of_read h
  rw [← hsame.id] at hid
  rw [← hsame.taskType] at htype
  rw [← hsame.config] at hconfig
  rw [← hsame.createdAt] at hcreated
  have hstatus : (row.write new).readStatus = .ok new.status := by
    unfold readStatus
    dsimp only [write]
    rw [new.status.parse_name]
  unfold read
  rw [hstatus]
  dsimp only [write]
  rw [hcreated, Column.time?_ofTime? _ hnew.startedAt, Column.time?_ofTime? _ hnew.finishedAt,
    Column.counter_ofCounter, Column.flag_ofFlag, ← hid, ← htype, ← hconfig]
  rfl

/-- What was read of some rows has their ids, and each of it comes from one of them. -/
theorem of_mapM_read {rows : List Row} {rs : List Record} (h : rows.mapM read = .ok rs) :
    rs.map Record.id = rows.map Row.id ∧ ∀ r ∈ rs, ∃ row ∈ rows, row.read = .ok r := by
  induction rows generalizing rs with
  | nil =>
    obtain rfl := Except.ok.inj h
    exact ⟨rfl, by simp⟩
  | cons row rows ih =>
    rw [List.mapM_cons] at h
    obtain ⟨r, hr, h⟩ := bind_eq_ok_iff.mp h
    obtain ⟨rest, hrest, h⟩ := bind_eq_ok_iff.mp h
    obtain rfl := Except.ok.inj h
    obtain ⟨hids, hrows⟩ := ih hrest
    refine ⟨by rw [List.map_cons, List.map_cons, hids, (of_read hr).1], ?_⟩
    intro x hx
    rcases List.mem_cons.mp hx with rfl | hx
    · exact ⟨row, List.mem_cons_self, hr⟩
    · obtain ⟨row', hmem, hread⟩ := hrows x hx
      exact ⟨row', List.mem_cons_of_mem row hmem, hread⟩

end Row

/-! ### The records of a table -/

namespace Table

variable {t : Table}

/-- The record of an id, if there is one that can be read. -/
def record? (t : Table) (id : String) : Option Record :=
  (t.find? id).bind fun row => row.read.toOption

theorem record?_eq_some_iff {id : String} {r : Record} :
    t.record? id = some r ↔ ∃ row, t.find? id = some row ∧ row.read = .ok r := by
  have hread : ∀ row : Row, row.read.toOption = some r ↔ row.read = .ok r := by
    intro row
    cases row.read <;> simp [Except.toOption]
  rw [record?, Option.bind_eq_some_iff]
  simp only [hread]

theorem id_of_find? {id : String} {row : Row} (h : t.find? id = some row) : row.id = id := by
  have hp := List.find?_some h
  simpa using hp

theorem id_of_record? {id : String} {r : Record} (h : t.record? id = some r) : r.id = id := by
  obtain ⟨row, hrow, hread⟩ := record?_eq_some_iff.mp h
  rw [(Row.of_read hread).1, id_of_find? hrow]

theorem whole_of_record? {id : String} {r : Record} (h : t.record? id = some r) : r.Whole := by
  obtain ⟨row, -, hread⟩ := record?_eq_some_iff.mp h
  exact Row.whole_of_read hread

/-- A row is found under its id. -/
theorem find?_of_mem {row : Row} (h : row ∈ t.rows) : t.find? row.id = some row := by
  cases hf : t.find? row.id with
  | none => simpa using List.find?_eq_none.mp hf row h
  | some row' =>
    have hmem : row' ∈ t.rows := List.mem_of_find?_eq_some hf
    rw [List.inj_on_of_nodup_map t.ids_nodup hmem h (id_of_find? hf)]

theorem find?_modify (t : Table) (target : String) (f : Row → Row) (id : String) :
    (t.modify target f).find? id
      = if id = target then (t.find? id).map fun row => { f row with id := row.id }
        else t.find? id := by
  have hp : ((fun row : Row => row.id == id) ∘ fun row =>
      if row.id = target then { f row with id := row.id } else row) = fun row => row.id == id := by
    funext row
    simp only [Function.comp_apply]
    split <;> rfl
  have hmap : (t.modify target f).find? id = (t.find? id).map fun row =>
      if row.id = target then { f row with id := row.id } else row := by
    unfold find? modify
    rw [List.find?_map, hp]
  rw [hmap]
  cases hrow : t.find? id with
  | none => split <;> rfl
  | some row =>
    obtain rfl := id_of_find? hrow
    rw [Option.map_some]
    split <;> rfl

theorem find?_update (t : Table) (new : Record) (id : String) :
    (t.update new).find? id
      = if id = new.id then (t.find? id).map fun row => row.write new else t.find? id :=
  t.find?_modify new.id (fun row => row.write new) id

/-- Writing a record of the same task over one that can be read replaces it. -/
theorem record?_update {old new : Record} (h : t.record? old.id = some old)
    (hsame : Record.SameTask old new) (hnew : new.Whole) (id : String) :
    (t.update new).record? id = if id = old.id then some new else t.record? id := by
  unfold record?
  rw [find?_update, hsame.id]
  split
  case isTrue hid =>
    obtain ⟨row, hrow, hread⟩ := record?_eq_some_iff.mp h
    rw [hid, hrow, Option.map_some, Option.bind_some, Row.read_write hread hsame hnew]
    rfl
  case isFalse => rfl

/-- Inverts the insertion of a row. -/
theorem of_insert {t' : Table} {row : Row} (h : t.insert row = .ok t') :
    t.find? row.id = none ∧ t'.rows = t.rows ++ [row] := by
  unfold insert at h
  split at h
  · cases h
  case isFalse hid =>
    obtain rfl := Except.ok.inj h
    refine ⟨?_, rfl⟩
    rw [find?, List.find?_eq_none]
    intro x hx hxid
    exact hid (List.mem_map.mpr ⟨x, hx, by simpa using hxid⟩)

/-- The row of a whole record that is inserted reads back as the record. -/
theorem record?_insert {t' : Table} {r : Record} (h : t.insert (Row.ofRecord r) = .ok t')
    (hr : r.Whole) (id : String) :
    t'.record? id = if id = r.id then some r else t.record? id := by
  obtain ⟨hnone, hrows⟩ := of_insert h
  have hnone : t.find? r.id = none := hnone
  unfold record?
  unfold find? at hnone ⊢
  rw [hrows, List.find?_append]
  split
  case isTrue hid =>
    subst hid
    have hfound : [Row.ofRecord r].find? (fun row => row.id == r.id) = some (Row.ofRecord r) := by
      simp [Row.ofRecord]
    rw [hnone, Option.none_or, hfound, Option.bind_some, Row.read_ofRecord hr]
    rfl
  case isFalse hid =>
    have hnot : [Row.ofRecord r].find? (fun row => row.id == id) = none := by
      simpa [Row.ofRecord] using fun heq : r.id = id => hid heq.symm
    rw [hnot, Option.or_none]

end Table

end TaskCluster
