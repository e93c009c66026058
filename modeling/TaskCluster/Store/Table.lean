import TaskCluster.Store.Call
import TaskCluster.Store.Row

/-!
# The table of tasks

Rows stand in the order of their insertion, and each id occurs once. Selections compare the stored
texts as they are, so a status in another spelling is found by its id alone.
-/

namespace TaskCluster

/-- Rows in the order of their insertion, each id once. -/
structure Table where
  rows : List Row := []
  ids_nodup : (rows.map Row.id).Nodup := by exact List.nodup_nil

namespace Table

/-- The row of an id. -/
def find? (t : Table) (id : String) : Option Row := t.rows.find? fun row => row.id == id

/-- Adds a row behind all others. -/
def insert (t : Table) (row : Row) : Except DatabaseFault Table :=
  if h : row.id ∈ t.rows.map Row.id then .error (.notUnique "id")
  else
    .ok {
      rows := t.rows ++ [row]
      ids_nodup := by
        rw [List.map_append, List.nodup_append]
        refine ⟨t.ids_nodup, by simp, ?_⟩
        intro a ha b hb hab
        simp only [List.map_cons, List.map_nil, List.mem_singleton] at hb
        exact h (hb ▸ hab ▸ ha) }

/-- Changes the row of an id, but for the id. -/
def modify (t : Table) (id : String) (f : Row → Row) : Table where
  rows := t.rows.map fun row => if row.id = id then { f row with id := row.id } else row
  ids_nodup := by
    rw [List.map_map]
    refine (congrArg List.Nodup (List.map_congr_left ?_)).mpr t.ids_nodup
    intro row _
    by_cases h : row.id = id <;> simp [h]

/-- Writes a record into the row of its id. -/
def update (t : Table) (r : Record) : Table := t.modify r.id fun row => row.write r

/-- Gives a row another id. -/
def rename (t : Table) (id new : String) : Except DatabaseFault Table :=
  let rows := t.rows.map fun row => if row.id = id then { row with id := new } else row
  if h : (rows.map Row.id).Nodup then .ok ⟨rows, h⟩ else .error (.notUnique "id")

/-- The rows by a time of creation, those of one time by their insertion. -/
def oldestFirst (t : Table) : List Row := t.rows.mergeSort fun a b => a.createdAt.le b.createdAt

/-- Does a row have the type and the status that a listing asks for? -/
def selects (l : Listing) (row : Row) : Bool :=
  l.typeFilter.all (fun t => t == row.taskType) &&
    (l.statuses.isEmpty || (l.statuses.map Status.name).contains row.status)

/-- The rows of a listing, newest first. -/
def select (t : Table) (l : Listing) : List Row :=
  l.page ((t.rows.filter (selects l)).mergeSort fun a b => a.createdAt.le b.createdAt).reverse

/-- The rows in one of some statuses, oldest first. -/
def inStatus (t : Table) (statuses : List Status) : List Row :=
  t.oldestFirst.filter fun row => (statuses.map Status.name).contains row.status

/-! ### Setting a single cell -/

/-- A text that must be there. -/
def mandatory (column : String) : Option String → Except DatabaseFault String
  | some s => .ok s
  | none => .error (.notNull column)

/-- A whole number that must be there. -/
def mandatoryWhole (column : String) (c : Cell) : Except DatabaseFault Cell :=
  if c = .null then .error (.notNull column) else .ok c.toWhole

/-- Sets a cell of a row by the name of its column, all columns but the id. -/
def setCell (row : Row) (column : String) (c : Cell) : Except DatabaseFault Row :=
  match column with
  | "task_type" => do .ok { row with taskType := ← mandatory column c.toText }
  | "task_config" => .ok { row with config := c.toText }
  | "status" => do .ok { row with status := ← mandatory column c.toText }
  | "created_at_ms" => do .ok { row with createdAt := ← mandatoryWhole column c }
  | "last_run_started_at_ms" => .ok { row with startedAt := c.toWhole }
  | "last_run_finished_at_ms" => .ok { row with finishedAt := c.toWhole }
  | "run_count" => do .ok { row with runCount := ← mandatoryWhole column c }
  | "execution_node_id" => .ok { row with node := c.toText }
  | "heartbeat_ms" => do .ok { row with heartbeat := ← mandatoryWhole column c }
  | "cancel_requested" => do .ok { row with cancelRequested := ← mandatoryWhole column c }
  | "processing_log" => .ok { row with log := c.toText }
  | _ => .ok row

/-- Sets a cell of the row of an id. Answers whether there is such a row. -/
def set (t : Table) (id column : String) (c : Cell) : Except DatabaseFault (Bool × Table) :=
  match t.find? id with
  | none => .ok (false, t)
  | some row =>
    if column = "id" then do .ok (true, ← t.rename id (← mandatory column c.toText))
    else do
      let new ← setCell row column c
      .ok (true, t.modify id fun _ => new)

end Table

end TaskCluster
