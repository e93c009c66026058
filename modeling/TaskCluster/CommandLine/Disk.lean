import TaskCluster.Failure
import TaskCluster.Store.Database
import TaskCluster.Text.Split

/-!
# Databases on a disk

A path names a database file. Opening a database makes the directories above it and, if it is not
there, the file. A directory cannot be opened, nor a file used as a directory. One name stands for a
database that is gone when it is closed.
-/

namespace TaskCluster.CommandLine

/-- A path from the working directory, or from the root if it begins with an empty name. -/
abbrev Path := List String

structure Disk where
  databases : List (Path × Database) := []
  directories : List Path := []

/-- Where a database is kept. -/
inductive Place where
  | file (path : Path)
  /-- Only for as long as it is open. -/
  | transient
deriving DecidableEq, Repr

namespace Path

/-- The path with one name more: two dots go back by one if there is where to go back to. -/
def enter (path : Path) (name : String) : Path :=
  if name = "" ∨ name = "." then path
  else if name = ".." then
    match path.getLast? with
    | none | some ".." => path ++ [".."]
    | some "" => path
    | some _ => path.dropLast
  else path ++ [name]

/-- The names of a written path, with an empty one in front if it begins at the root. -/
def names (s : String) : List String :=
  let parts := (Text.splitOn '/' s).filter fun part => part ≠ "" ∧ part ≠ "."
  if s.startsWith "/" then "" :: parts else parts

/-- Where a path begins. -/
def start (s : String) : Path := if s.startsWith "/" then [""] else []

/-- Is the path one that is always a directory? -/
def isAbove (path : Path) : Bool :=
  match path.getLast? with
  | none | some "" | some ".." => true
  | some _ => false

end Path

namespace Disk

def database? (d : Disk) (path : Path) : Option Database :=
  (d.databases.find? fun entry => entry.1 == path).map Prod.snd

def isDirectory (d : Disk) (path : Path) : Bool :=
  Path.isAbove path || d.directories.contains path

def fileExists : SystemFault := ⟨17, "AlreadyExists", "File exists"⟩
def notADirectory : SystemFault := ⟨20, "NotADirectory", "Not a directory"⟩

/-- Makes the directories of some names below a path. -/
def makeDirectories (d : Disk) (path : Path) : List String → Except Failure Disk
  | [] => .ok d
  | name :: rest =>
    let next := Path.enter path name
    if (d.database? next).isSome then
      .error (.io (if rest.isEmpty then fileExists else notADirectory))
    else
      let d := if d.isDirectory next then d else { d with directories := next :: d.directories }
      d.makeDirectories next rest

/-- The name of a database that is not kept. -/
def transientName : String := ":memory:"

/-- Opens the database of a written path. -/
def openDatabase (d : Disk) (s : String) : Except Failure (Place × Database × Disk) := do
  let names := (Path.names s).filter fun name => name ≠ ""
  let d ← d.makeDirectories (Path.start s) names.dropLast
  if s = transientName then .ok (.transient, {}, d)
  else
    let path := names.foldl Path.enter (Path.start s)
    if d.isDirectory path then .error (.storage (.cannotOpen s))
    else
      match d.database? path with
      | some db => .ok (.file path, db, d)
      | none => .ok (.file path, {}, { d with databases := d.databases ++ [(path, {})] })

/-- Keeps the new state of a database that was opened. -/
def save (d : Disk) (place : Place) (db : Database) : Disk :=
  match place with
  | .transient => d
  | .file path =>
    { d with databases := d.databases.map fun entry =>
        if entry.1 = path then (path, db) else entry }

end Disk

end TaskCluster.CommandLine
