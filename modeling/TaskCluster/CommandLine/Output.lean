import TaskCluster.CommandLine.Invocation
import TaskCluster.Record.Codec

/-!
# What commands show

Results are shown as JSON, indented, or as plain text: one line for what was done, labelled lines
for a task, and a table for many.
-/

namespace TaskCluster.CommandLine

/-- Lines, each with an end of its own. -/
def lines (ls : List String) : String := ls.foldl (fun out l => out ++ l ++ "\n") ""

/-- A JSON value as it is shown. -/
def showJson (v : Json.Value) : String := lines [v.pretty]

/-- The text with blanks behind it up to a width. -/
def padRight (width : Nat) (s : String) : String :=
  s ++ String.ofList (List.replicate (width - s.length) ' ')

/-- A time to the second, or a dash for none. -/
def showTime : Option Instant → String
  | none => "-"
  | some t => t.toSecondText

/-- The lines of a text: an end may be a line feed with a carriage return before it. -/
def textLines (s : String) : List String :=
  let parts := Text.splitOn '\n' s
  let parts := if parts.getLast? = some "" then parts.dropLast else parts
  let whole := s.toList.count '\n'
  parts.mapIdx fun i part =>
    if i < whole ∧ part.toList.getLast? = some '\r' then String.ofList part.toList.dropLast else part

def showTypes (format : Format) (types : List String) : String :=
  match format with
  | .json => showJson (.arr (types.map .str))
  | .table => lines types

def showCreated (format : Format) (id : String) : String :=
  match format with
  | .json => showJson (.obj [("task_id", .str id)])
  | .table => lines ["Task created successfully!", "Task ID: " ++ id]

def showCanceled (format : Format) (id : String) (canceled : Bool) : String :=
  match format with
  | .json => showJson (.obj [("task_id", .str id), ("canceled", .bool canceled)])
  | .table => lines [if canceled then "Task canceled" else "Task not canceled"]

/-- A line that is shown only if there is something to show. -/
def optionalLine (label : String) : Option String → List String
  | none => []
  | some s => [label ++ s]

def showRecord (format : Format) (r : Record) : String :=
  match format with
  | .json => showJson r.toJson
  | .table =>
    lines <|
      ["Task ID:          " ++ r.id,
        "Type:             " ++ r.taskType,
        "Status:           " ++ r.status.name,
        "Created:          " ++ showTime (some r.createdAt),
        "Last Run Started: " ++ showTime r.startedAt,
        "Last Run Ended:   " ++ showTime r.finishedAt,
        "Run Count:        " ++ toString r.runCount.toNat] ++
      optionalLine "Execution Node:   " r.node ++
      (if r.cancelRequested then ["Cancel Requested: yes"] else []) ++
      optionalLine "Config:           " r.config ++
      match r.log with
      | none => []
      | some log => "Processing Log:" :: (textLines log).map fun l => "  " ++ l

/-- The head of the table of tasks. -/
def tableHead : String :=
  padRight 34 "TASK ID" ++ " " ++ padRight 16 "TYPE" ++ " " ++ padRight 15 "STATUS" ++ " " ++
    padRight 5 "RUNS" ++ " " ++ padRight 12 "NODE" ++ " CREATED"

/-- The row of a task. The status is not padded. -/
def tableRow (r : Record) : String :=
  padRight 34 r.id ++ " " ++ padRight 16 r.taskType ++ " " ++ r.status.name ++ " " ++
    padRight 5 (toString r.runCount.toNat) ++ " " ++ padRight 12 (r.node.getD "-") ++ " " ++
    showTime (some r.createdAt)

def tableRule : String := String.ofList (List.replicate 104 '-')

def showRecords (format : Format) (rs : List Record) : String :=
  match format with
  | .json =>
    showJson (.obj [("tasks", .arr (rs.map Record.toJson)), ("count", .int rs.length)])
  | .table =>
    if rs.isEmpty then lines ["No tasks found."]
    else
      lines ([tableHead, tableRule] ++ rs.map tableRow ++
        ["", "Showing " ++ toString rs.length ++ " tasks"])

end TaskCluster.CommandLine
