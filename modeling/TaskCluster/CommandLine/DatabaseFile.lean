import TaskCluster.Record.Codec
import TaskCluster.Store.Database

/-!
# Database files

A database is kept in a file as a JSON list of its records in the order of their insertion. An empty
file is an empty database.
-/

namespace TaskCluster.Database

/-- The records that can be read, in the order of their insertion. -/
def records (d : Database) : List Record :=
  d.table.rows.filterMap fun row => row.read.toOption

/-- The content of a file. -/
def toText (d : Database) : String := (Json.Value.arr (d.records.map Record.toJson)).compact

/-- The database with the records of some values behind its own; none if a value is no record or an
id occurs twice. -/
def append? (d : Database) : List Json.Value → Option Database
  | [] => some d
  | v :: vs => do
    let r ← (Record.ofJson v).toOption
    let table ← (d.table.insert (Row.ofRecord r)).toOption
    append? { d with table } vs

/-- The database of a file; none if the file holds something else. -/
def ofText? (s : String) : Option Database :=
  if Text.isBlank s then some {}
  else
    match Json.Value.parse s with
    | .ok (.arr items) => append? {} items
    | _ => none

end TaskCluster.Database
