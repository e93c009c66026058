import TaskCluster.CommandLine.DatabaseFile
import TaskCluster.CommandLine.Run

/-!
# The program

The outer layer: it reads the arguments and the clock, keeps databases in files under a lock, prints
what a command says, and lets a node run for as long as the process lives.
-/

namespace TaskCluster

open CommandLine

/-- What the clock shows, which is the time at which a new file is made. -/
def readClock : IO ClockTime := do
  let (_, file) ← IO.FS.createTempFile
  let modified := (← file.metadata).modified
  IO.FS.removeFile file
  return ClockTime.clamp (modified.sec * 1000 + modified.nsec.toNat / 1000000)

/-- Opens a database file under a lock and makes what is missing of its path. -/
def openFile (path : String) : IO IO.FS.Handle := do
  let parent := "/".intercalate (Text.splitOn '/' path).dropLast
  unless parent.isEmpty do IO.FS.createDirAll parent
  let _ ← IO.FS.Handle.mk path .append
  let file ← IO.FS.Handle.mk path .readWrite
  file.lock
  return file

/-- Works on the database of a file; none if the file holds something else. -/
def withDatabase {α : Type} (path : String) (work : Database → α × Database) :
    IO (Option α) := do
  let file ← openFile path
  match Database.ofText? (← file.readToEnd) with
  | none => return none
  | some db =>
    let (result, db) := work db
    file.truncate
    file.rewind
    file.putStr db.toText
    file.flush
    file.unlock
    return some result

/-- Prints how a command ends. -/
def report (o : Outcome) : IO UInt32 := do
  IO.print o.stdout
  unless o.stderr.isEmpty do IO.eprintln o.stderr
  return o.code.toUInt32

/-- How a command ends that cannot open its database. -/
def cannotOpen (path : String) : Outcome :=
  .failed (Failure.storage (.cannotOpen path)).diagnostic

/-- Works on a database as a session that finds nothing else. -/
def inSession {α : Type} (clock : ClockTime) (settings : StoreSettings)
    (work : Shared → α × Shared) (db : Database) : α × Database :=
  let session : Session := { clock, created := db.table.rows.length }
  let (result, shared) := work (session.share db settings)
  match shared.store with
  | .database db => (result, db)
  | .memory _ => (result, db)

/-- Carries out a command on a database file. -/
def runTask (path : String) (format : Format) (command : TaskCommand) : IO UInt32 := do
  let clock ← readClock
  let outcome ←
    try withDatabase path (inSession clock {} (Session.perform format command))
    catch _ => pure none
  report (outcome.getD (cannotOpen path))

/-- The milliseconds between two looks at the database. -/
def tick : UInt32 := 10

/-- Lets the node of a cluster do what is due on a database. -/
def turn (c : Cluster) (millis : Nat) (db : Database) : Cluster × Database :=
  let c := { c with shared := { c.shared with store := .database db } }.settle.advance millis
  match c.shared.store with
  | .database db => (c, db)
  | .memory _ => (c, db)

/-- Lets the node of a cluster run, from a time of the timer on. -/
partial def serve (path : String) (c : Cluster) (since : Nat) : IO Unit := do
  IO.sleep tick
  let time ← IO.monoMsNow
  match ← withDatabase path (turn c (time - since)) with
  | some c => serve path c time
  | none => return

/-- Runs a node. -/
def runServer (a : ServerArguments) : IO UInt32 := do
  match Database.opened {} a.store with
  | .error o => report (.aborted (.overflow o))
  | .ok db =>
    let shared := ({ clock := ← readClock : Session }).share db a.store
    let c : Cluster := { shared, nodes := [Session.serverNode a] }
    try
      serve a.database (c.start 0) (← IO.monoMsNow)
    catch _ => pure ()
    report (cannotOpen a.database)

end TaskCluster

open TaskCluster CommandLine in
def main (args : List String) : IO UInt32 := do
  match Invocation.parse args with
  | .error refusal => report (.refused refusal)
  | .ok (.task database format command) => runTask database format command
  | .ok (.server a) => runServer a
