import Mathlib
import TaskCluster.Proofs.Store.Placement

/-!
# Records in columns

Two statements write records into the table, with the values in two different orders: an insertion
fills all columns in turn, an update sets eight of them by their names. A third statement reads the
columns by their places. `Row.insertValues`, `Row.updateValues` and `Row.readCells` spell these out
value by value and place by place, and each is what the named fields of a row say
(`Row.inserted_insertValues`, `Row.assign_updateValues`, `Row.readCells_cells`).

A time is kept in whole milliseconds, rounded down, before the epoch as well as after it
(`Instant.floored`). So what is inserted or updated reads back as the record with its times rounded
down, if none of them is in a leap second (`columns_keep_records`).
-/

namespace TaskCluster

/-! ### Rounding down -/

namespace Instant

/-- The instant rounded down to whole milliseconds. -/
def floored (t : Instant) : Instant where
  seconds := t.seconds
  nanos := t.nanos / nanosPerMilli * nanosPerMilli
  min_le := t.min_le
  le_max := t.le_max
  nanos_lt := lt_of_le_of_lt (Nat.div_mul_le_self _ _) t.nanos_lt

variable {t : Instant}

@[simp] theorem millis_floored (t : Instant) : t.floored.millis = t.millis := by
  simp only [millis, floored, nanosPerMilli]
  omega

/-- Outside of leap seconds the rounded instant is a clock reading. -/
theorem exists_reading_floored (h : t.isLeap = false) :
    ∃ c : ClockTime, c.millis = t.millis ∧ t.floored = c.toInstant := by
  have hmin := t.min_le
  have hmax := t.le_max
  have hnanos : t.nanos < nanosPerSecond := Nat.lt_of_not_le (of_decide_eq_false h)
  simp only [nanosPerSecond] at hnanos
  refine ⟨⟨t.millis, ?_, ?_⟩, rfl, ?_⟩
  · simp only [millis, minSecond, nanosPerMilli] at *
    omega
  · simp only [millis, maxSecond, nanosPerMilli] at *
    omega
  · simp only [floored, ClockTime.toInstant, millis, nanosPerMilli, Instant.mk.injEq]
    omega

/-- The rounded instant is the last clock reading that is not later. -/
theorem isGreatest_floored (h : t.isLeap = false) :
    t.floored.IsReading ∧ t.floored.le t = true
      ∧ ∀ c : ClockTime, c.toInstant.le t = true → c.toInstant.le t.floored = true := by
  obtain ⟨c, -, hc⟩ := exists_reading_floored h
  refine ⟨⟨c, hc⟩, ?_, ?_⟩
  · rw [le_iff]
    exact Or.inr ⟨rfl, Nat.div_mul_le_self _ _⟩
  · intro c hle
    rw [le_iff] at hle ⊢
    simp only [floored, ClockTime.toInstant, nanosPerMilli] at *
    omega

end Instant

namespace Record

/-- The record with its times rounded down to whole milliseconds. -/
def floored (r : Record) : Record :=
  { r with
    createdAt := r.createdAt.floored
    startedAt := r.startedAt.map Instant.floored
    finishedAt := r.finishedAt.map Instant.floored }

/-- No time of the record is in a leap second. -/
structure LeapFree (r : Record) : Prop where
  createdAt : r.createdAt.isLeap = false
  startedAt : ∀ t ∈ r.startedAt, t.isLeap = false
  finishedAt : ∀ t ∈ r.finishedAt, t.isLeap = false

theorem LeapFree.whole_floored {r : Record} (h : r.LeapFree) : r.floored.Whole := by
  have hoption : ∀ o : Option Instant, (∀ t ∈ o, t.isLeap = false) →
      ∀ t ∈ o.map Instant.floored, t.IsReading := by
    intro o ho t ht
    obtain ⟨x, hx, rfl⟩ := Option.map_eq_some_iff.mp ht
    exact (Instant.isGreatest_floored (ho x hx)).1
  exact ⟨(Instant.isGreatest_floored h.createdAt).1, hoption _ h.startedAt, hoption _ h.finishedAt⟩

end Record

namespace Cell

@[simp] theorem ofTime_floored (t : Instant) : ofTime t.floored = ofTime t := by
  rw [ofTime, t.millis_floored, ofTime]

@[simp] theorem ofTime?_map_floored (t : Option Instant) :
    ofTime? (t.map Instant.floored) = ofTime? t := by
  cases t with
  | none => rfl
  | some t => exact ofTime_floored t

/-- The cell of a text column. -/
def ofText? : Option String → Cell
  | none => .null
  | some s => .text s

@[simp] theorem toText_text (s : String) : (text s).toText = some s := rfl

@[simp] theorem toWhole_int (i : Int64) : (int i).toWhole = int i := rfl

@[simp] theorem toText_ofText? (s : Option String) : (ofText? s).toText = s := by
  cases s <;> rfl

@[simp] theorem toWhole_ofTime? (t : Option Instant) : (ofTime? t).toWhole = ofTime? t := by
  cases t <;> rfl

end Cell

@[simp] theorem Table.mandatory_some (name s : String) : Table.mandatory name (some s) = .ok s :=
  rfl

@[simp] theorem Table.mandatoryWhole_int (name : String) (i : Int64) :
    Table.mandatoryWhole name (.int i) = .ok (.int i) := rfl

/-! ### The three statements -/

/-- A text that must be there. -/
def Column.text (column : Column) : Cell → Except DatabaseFault String
  | .text s => .ok s
  | c => .error (.wrongKind column.index column.name c.kind)

/-- A text, or none for an empty cell. -/
def Column.text? (column : Column) : Cell → Except DatabaseFault (Option String)
  | .null => .ok none
  | c => (column.text c).map some

@[simp] theorem Column.text_text (column : Column) (s : String) :
    column.text (.text s) = .ok s := rfl

@[simp] theorem Column.text?_ofText? (column : Column) (s : Option String) :
    column.text? (Cell.ofText? s) = .ok s := by
  cases s <;> rfl

namespace Row

/-- The columns of the table in their order. -/
def columns : List String :=
  ["id", "task_type", "task_config", "status", "created_at_ms", "last_run_started_at_ms",
    "last_run_finished_at_ms", "run_count", "execution_node_id", "heartbeat_ms",
    "cancel_requested", "processing_log"]

/-- The column at a place. -/
def column (i : Nat) : Column := ⟨i, columns.getD i ""⟩

/-- The values of the statement that inserts a record, one for each column. -/
def insertValues (r : Record) : List Cell :=
  [.text r.id, .text r.taskType, Cell.ofText? r.config, .text r.status.name,
    Cell.ofTime r.createdAt, Cell.ofTime? r.startedAt, Cell.ofTime? r.finishedAt,
    Cell.ofCounter r.runCount, Cell.ofText? r.node, .int r.heartbeat,
    Cell.ofFlag r.cancelRequested, Cell.ofText? r.log]

/-- The values of the statement that updates a record; the first is the id that it looks for. -/
def updateValues (r : Record) : List Cell :=
  [.text r.id, .text r.status.name, Cell.ofTime? r.startedAt, Cell.ofTime? r.finishedAt,
    Cell.ofCounter r.runCount, Cell.ofText? r.node, .int r.heartbeat,
    Cell.ofFlag r.cancelRequested, Cell.ofText? r.log]

/-- The columns that the update sets, with the numbers of their values. Values are counted from
one. -/
def updated : List (String × Nat) :=
  [("status", 2), ("last_run_started_at_ms", 3), ("last_run_finished_at_ms", 4), ("run_count", 5),
    ("execution_node_id", 6), ("heartbeat_ms", 7), ("cancel_requested", 8), ("processing_log", 9)]

/-- The value of a number. -/
def value (values : List Cell) (number : Nat) : Cell := values.getD (number - 1) .null

/-- Sets columns of a row, each to the value of a number. -/
def assign (values : List Cell) (assignments : List (String × Nat)) (row : Row) :
    Except DatabaseFault Row :=
  assignments.foldlM (fun row (name, number) => Table.setCell row name (value values number)) row

/-- The row that an insertion adds: each column is set to the value of its place. -/
def inserted (values : List Cell) : Except DatabaseFault Row := do
  let id ← Table.mandatory "id" (value values 1).toText
  assign values (columns.zipIdx 1)
    { id, taskType := "", config := none, status := "", createdAt := .null, startedAt := .null,
      finishedAt := .null, runCount := .null, node := none, heartbeat := .null,
      cancelRequested := .null, log := none }

/-- The cells of a row in the order of the columns. -/
def cells (row : Row) : List Cell :=
  [.text row.id, .text row.taskType, Cell.ofText? row.config, .text row.status, row.createdAt,
    row.startedAt, row.finishedAt, row.runCount, Cell.ofText? row.node, row.heartbeat,
    row.cancelRequested, Cell.ofText? row.log]

/-- The record that cells hold, each field read from its place. -/
def readCells (cells : List Cell) : Except DatabaseFault Record := do
  let cell (i : Nat) : Cell := cells.getD i .null
  let text ← (column 3).text (cell 3)
  let status ← match Status.parse text with
    | .ok s => .ok s
    | .error e => .error (.unknownStatus 3 e.text)
  .ok {
    id := ← (column 0).text (cell 0)
    taskType := ← (column 1).text (cell 1)
    config := ← (column 2).text? (cell 2)
    status
    createdAt := ← (column 4).time (cell 4)
    startedAt := ← (column 5).time? (cell 5)
    finishedAt := ← (column 6).time? (cell 6)
    runCount := ← (column 7).counter (cell 7)
    node := ← (column 8).text? (cell 8)
    heartbeat := ← (column 9).int (cell 9)
    cancelRequested := ← (column 10).flag (cell 10)
    log := ← (column 11).text? (cell 11) }

/-! ### What the statements do -/

theorem ok_bind {ε α β : Type} (a : α) (f : α → Except ε β) : (Except.ok a >>= f) = f a := rfl

variable (row : Row) (r : Record)

/-- An insertion puts each value into the field of its column. -/
theorem inserted_insertValues : inserted (insertValues r) = .ok (ofRecord r) := by
  simp [inserted, insertValues, columns, List.zipIdx, assign, value, Table.setCell, ofRecord,
    ok_bind, pure, Except.pure, Cell.ofTime, Cell.ofCounter, Cell.ofFlag]

/-- An update puts its eight values into the fields that may change. -/
theorem assign_updateValues : assign (updateValues r) updated row = .ok (row.write r) := by
  simp [assign, updateValues, updated, value, Table.setCell, write, ok_bind, pure, Except.pure,
    Cell.ofCounter, Cell.ofFlag]

/-- Reading by places reads the fields of the row. -/
theorem readCells_cells : readCells row.cells = row.read := by
  have hcolumns : column 4 = Column.createdAt ∧ column 5 = Column.startedAt
      ∧ column 6 = Column.finishedAt ∧ column 7 = Column.runCount ∧ column 9 = Column.heartbeat
      ∧ column 10 = Column.cancelRequested := ⟨rfl, rfl, rfl, rfl, rfl, rfl⟩
  obtain ⟨h4, h5, h6, h7, h9, h10⟩ := hcolumns
  unfold readCells read readStatus
  simp only [cells, List.getD_cons_succ, List.getD_cons_zero, Column.text?_ofText?,
    Column.text_text, h4, h5, h6, h7, h9, h10, ok_bind]
  cases Status.parse row.status with
  | ok status => rfl
  | error e => rfl

/-! ### Rounded times

A row does not tell a record from the one with its times rounded down. -/

theorem ofRecord_floored : ofRecord r.floored = ofRecord r := by
  simp [ofRecord, Record.floored]

theorem write_floored : row.write r.floored = row.write r := by
  simp [write, Record.floored]

variable {r}

/-- What is written over a row reads back with what the row keeps, whatever stood in the other
columns. -/
theorem read_write_eq (h : r.Whole) :
    (row.write r).read = (Column.createdAt.time row.createdAt).map fun createdAt =>
      { r with id := row.id, taskType := row.taskType, config := row.config, createdAt } := by
  have hstatus : (row.write r).readStatus = .ok r.status := by
    unfold readStatus
    dsimp only [write]
    rw [r.status.parse_name]
  unfold read
  rw [hstatus]
  dsimp only [write]
  rw [Column.time?_ofTime? _ h.startedAt, Column.time?_ofTime? _ h.finishedAt,
    Column.counter_ofCounter, Column.flag_ofFlag]
  cases Column.createdAt.time row.createdAt <;> rfl

end Row

/-! ### The statements on a table -/

namespace Table

variable (t : Table) (r : Record)

/-- Executes the statement that inserts. -/
def executeInsert (values : List Cell) : Except DatabaseFault Table := do
  t.insert (← Row.inserted values)

/-- Executes the statement that updates. -/
def executeUpdate (values : List Cell) : Except DatabaseFault Table :=
  match (Row.value values 1).toText.bind t.find? with
  | none => .ok t
  | some row => do
    let new ← Row.assign values Row.updated row
    .ok (t.modify row.id fun _ => new)

/-- Executes the statement that reads the record of an id. -/
def executeRead (id : String) : Except DatabaseFault (Option Record) :=
  match t.find? id with
  | none => .ok none
  | some row => (Row.readCells row.cells).map some

theorem eq_of_rows_eq {t t' : Table} (h : t.rows = t'.rows) : t = t' := by
  cases t
  cases t'
  cases h
  rfl

/-- An inserted row is found under its id, and nothing else changes. -/
theorem find?_insert {t t' : Table} {row : Row} (h : t.insert row = .ok t') (id : String) :
    t'.find? id = if id = row.id then some row else t.find? id := by
  obtain ⟨hnone, hrows⟩ := of_insert h
  have happend : t'.find? id = (t.find? id).or ([row].find? fun row => row.id == id) := by
    rw [find?, hrows, List.find?_append, find?]
  rw [happend]
  split
  case isTrue hid =>
    rw [hid, hnone]
    simp
  case isFalse hid =>
    have hnot : ¬ row.id = id := fun heq => hid heq.symm
    simp [hnot]

theorem executeInsert_insertValues :
    t.executeInsert (Row.insertValues r) = t.insert (Row.ofRecord r) := by
  rw [executeInsert, Row.inserted_insertValues]
  rfl

theorem executeUpdate_updateValues : t.executeUpdate (Row.updateValues r) = .ok (t.update r) := by
  have hvalue : (Row.value (Row.updateValues r) 1).toText.bind t.find? = t.find? r.id := rfl
  rw [executeUpdate, hvalue]
  cases hfind : t.find? r.id with
  | none =>
    -- An update of no row is the identity.
    have hrows : (t.update r).rows = t.rows := by
      refine (List.map_congr_left fun row hrow => ?_).trans (List.map_id _)
      have hid : row.id ≠ r.id := by simpa using List.find?_eq_none.mp hfind row hrow
      exact if_neg hid
    exact congrArg Except.ok (eq_of_rows_eq hrows.symm)
  | some row =>
    have hrow := id_of_find? hfind
    have hmem : row ∈ t.rows := List.mem_of_find?_eq_some hfind
    have hrows : (t.modify row.id fun _ => row.write r).rows = (t.update r).rows := by
      refine List.map_congr_left fun x hx => ?_
      rw [hrow]
      by_cases hid : x.id = r.id
      · have hsame : x = row := List.inj_on_of_nodup_map t.ids_nodup hx hmem (hid.trans hrow.symm)
        rw [if_pos hid, if_pos hid, hsame]
      · rw [if_neg hid, if_neg hid]
    dsimp only
    rw [Row.assign_updateValues]
    exact congrArg Except.ok (eq_of_rows_eq hrows)

theorem executeRead_eq (id : String) :
    t.executeRead id = match t.find? id with
      | none => .ok none
      | some row => row.read.map some := by
  unfold executeRead
  cases t.find? id with
  | none => rfl
  | some row =>
    dsimp only
    rw [row.readCells_cells]

end Table

theorem Database.get_eq_executeRead (d : Database) (id : String) :
    d.get id = orFault (d.table.executeRead id) := by
  rw [d.table.executeRead_eq, get]
  cases d.table.find? id <;> rfl

/-- **Records in columns.** A record without leap seconds that is inserted under a new id reads back
with its times rounded down to whole milliseconds and all else as it was. A record that is written
over a row of its id reads back with the id, the type, the configuration and the time of creation of
the row, with its own times rounded down and all else as it was, whatever the row held before; only
a time of creation that cannot be read makes that fail. No other id reads otherwise than before. The
store and the statements, whose values and columns stand in an order, do the same. -/
theorem columns_keep_records (t : Table) {r : Record} (h : r.LeapFree) :
    (t.find? r.id = none →
      ∃ t', t.executeInsert (Row.insertValues r) = .ok t' ∧ t.insert (Row.ofRecord r) = .ok t'
        ∧ ∀ id, t'.executeRead id
          = if id = r.id then .ok (some r.floored) else t.executeRead id)
      ∧ (∀ row, t.find? r.id = some row →
        t.executeUpdate (Row.updateValues r) = .ok (t.update r)
          ∧ ∀ id, (t.update r).executeRead id
            = if id = r.id then
                (Column.createdAt.time row.createdAt).map fun createdAt =>
                  some { r.floored with
                    id := row.id, taskType := row.taskType, config := row.config, createdAt }
              else t.executeRead id)
      ∧ ∀ (d : Database) (id : String), d.get id = orFault (d.table.executeRead id) := by
  refine ⟨?inserted, ?updated, Database.get_eq_executeRead⟩
  case inserted =>
    intro hnone
    obtain ⟨t', hinsert⟩ := Table.exists_insert (Row.ofRecord r) hnone
    refine ⟨t', (t.executeInsert_insertValues r).trans hinsert, hinsert, ?_⟩
    intro id
    rw [Table.executeRead_eq, Table.executeRead_eq, Table.find?_insert hinsert]
    by_cases hid : id = r.id
    · have hrow : id = (Row.ofRecord r).id := hid
      rw [if_pos hid, if_pos hrow, ← Row.ofRecord_floored]
      dsimp only
      rw [Row.read_ofRecord h.whole_floored]
      rfl
    · have hrow : ¬ id = (Row.ofRecord r).id := hid
      rw [if_neg hid, if_neg hrow]
  case updated =>
    intro row hrow
    refine ⟨t.executeUpdate_updateValues r, ?_⟩
    intro id
    rw [Table.executeRead_eq, Table.executeRead_eq, Table.find?_update]
    by_cases hid : id = r.id
    · rw [if_pos hid, if_pos hid, hid, hrow, Option.map_some, ← Row.write_floored]
      dsimp only
      rw [row.read_write_eq h.whole_floored]
      cases Column.createdAt.time row.createdAt <;> rfl
    · rw [if_neg hid, if_neg hid]

/-- Half a millisecond before the epoch and a nanosecond after it are rounded down. The row that is
updated has a status and a counter that cannot be read. -/
theorem columns_keep_records_of_two :
    let before : Instant := ⟨-1, 999500000, by decide, by decide, by decide⟩
    let after : Instant := ⟨0, 1, by decide, by decide, by decide⟩
    let down : Instant := ⟨-1, 999000000, by decide, by decide, by decide⟩
    let epoch := ClockTime.epoch.toInstant
    let old := Record.fresh "a" "sleep" none epoch
    let row : Row := { Row.ofRecord old with status := "junk", runCount := .text "x" }
    let t : Table := ⟨[row], by decide⟩
    let r (id : String) : Record :=
      { Record.fresh id "noop" none before with
        status := .failover, startedAt := some after, finishedAt := none, runCount := 7
        node := some "n", heartbeat := -5, cancelRequested := true, log := some "line" }
    (∃ t', t.executeInsert (Row.insertValues (r "b")) = .ok t'
        ∧ t'.executeRead "b" = .ok (some { r "b" with createdAt := down, startedAt := some epoch }))
      ∧ ∃ t', t.executeUpdate (Row.updateValues (r "a")) = .ok t'
        ∧ t'.executeRead "a" = .ok (some
          { r "a" with taskType := "sleep", createdAt := epoch, startedAt := some epoch }) := by
  intro before after down epoch old row t r
  have hbefore : before.isLeap = false ∧ before.floored = down := by decide +kernel
  have hafter : after.isLeap = false ∧ after.floored = epoch := by decide +kernel
  have hfree : ∀ id, (r id).LeapFree := by
    intro id
    refine ⟨hbefore.1, ?_, ?_⟩
    · intro x hx
      obtain rfl := Option.some.inj hx
      exact hafter.1
    · intro x hx
      cases hx
  have hfloored : ∀ id, (r id).floored
      = { r id with createdAt := down, startedAt := some epoch } := by
    intro id
    rw [← hbefore.2, ← hafter.2]
    rfl
  refine ⟨?_, ?_⟩
  · obtain ⟨t', hinsert, -, hread⟩ := (columns_keep_records t (hfree "b")).1 (by decide)
    rw [hfloored] at hread
    exact ⟨t', hinsert, hread "b"⟩
  · obtain ⟨hupdate, hread⟩ := (columns_keep_records t (hfree "a")).2.1 row (by decide)
    have hcreated : Column.createdAt.time row.createdAt = .ok epoch :=
      Column.time_ofTime_of_isReading _ ⟨.epoch, rfl⟩
    rw [hfloored, hcreated] at hread
    exact ⟨_, hupdate, hread "a"⟩

end TaskCluster
