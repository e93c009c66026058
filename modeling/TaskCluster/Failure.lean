import TaskCluster.Json.Error

/-!
# Failures

Every way in which an operation can be refused, with its message for users and its diagnostic form.
An `Overflow` is different: it ends the computation that runs into it.
-/

namespace TaskCluster

/-- The kinds of content that a database cell can have. -/
inductive CellKind where
  | null
  | integer
  | real
  | text
deriving DecidableEq, Repr

def CellKind.name : CellKind → String
  | .null => "Null"
  | .integer => "Integer"
  | .real => "Real"
  | .text => "Text"

/-- Why the database refused an operation. -/
inductive DatabaseFault where
  /-- Another connection holds the write lock. -/
  | locked
  | cannotOpen (path : String)
  | notNull (column : String)
  | notUnique (column : String)
  /-- A column holds a text that is no status. -/
  | unknownStatus (column : Nat) (text : String)
  /-- A column holds milliseconds outside the calendar. -/
  | timeOutOfRange (column : Nat) (millis : Int)
  | integerOutOfRange (column : Nat) (value : Int)
  | wrongKind (column : Nat) (name : String) (kind : CellKind)
deriving DecidableEq, Repr

/-- The words for a time outside the calendar. -/
def outOfCalendar (millis : Int) : String := "timestamp out of range: " ++ toString millis

def DatabaseFault.message : DatabaseFault → String
  | .locked => "database is locked"
  | .cannotOpen path => "unable to open database file: " ++ path
  | .notNull column => "NOT NULL constraint failed: tasks." ++ column
  | .notUnique column => "UNIQUE constraint failed: tasks." ++ column
  | .unknownStatus column text =>
    "Conversion error from type Text at index: " ++ toString column ++
      ", Unknown task status: " ++ text
  | .timeOutOfRange column millis =>
    "Conversion error from type Integer at index: " ++ toString column ++ ", " ++
      outOfCalendar millis
  | .integerOutOfRange column value =>
    "Integer " ++ toString value ++ " out of range at index " ++ toString column
  | .wrongKind column name kind =>
    "Invalid column type " ++ kind.name ++ " at index: " ++ toString column ++ ", name: " ++ name

/-- The diagnostic form of a fault that the database engine reports itself. -/
def engineFault (code : String) (extended : Nat) (text : String) : String :=
  "SqliteFailure(Error \x7b code: " ++ code ++ ", extended_code: " ++ toString extended ++
    " \x7d, Some(" ++ Text.quote text ++ "))"

def DatabaseFault.diagnostic (f : DatabaseFault) : String :=
  match f with
  | .locked => engineFault "DatabaseBusy" 5 f.message
  | .cannotOpen _ => engineFault "CannotOpen" 14 f.message
  | .notNull _ => engineFault "ConstraintViolation" 1299 f.message
  | .notUnique _ => engineFault "ConstraintViolation" 2067 f.message
  | .unknownStatus column text =>
    "FromSqlConversionFailure(" ++ toString column ++ ", Text, ParseTaskStatusError(" ++
      Text.quote text ++ "))"
  | .timeOutOfRange column millis =>
    "FromSqlConversionFailure(" ++ toString column ++ ", Integer, " ++
      Text.quote (outOfCalendar millis) ++ ")"
  | .integerOutOfRange column value =>
    "IntegralValueOutOfRange(" ++ toString column ++ ", " ++ toString value ++ ")"
  | .wrongKind column name kind =>
    "InvalidColumnType(" ++ toString column ++ ", " ++ Text.quote name ++ ", " ++ kind.name ++ ")"

/-- A refusal of the operating system. -/
structure SystemFault where
  code : Nat
  kind : String
  text : String
deriving DecidableEq, Repr

inductive Failure where
  | unsupportedTask (taskType : String)
  | taskConfiguration (reason : String)
  | taskNotFound (id : String)
  | lockTimeout (id : String)
  | storage (fault : DatabaseFault)
  | serialization (error : Json.Error)
  | io (fault : SystemFault)
  | internal (reason : String)

namespace Failure

def message : Failure → String
  | .unsupportedTask taskType => "Unsupported task type: " ++ taskType
  | .taskConfiguration reason => "Invalid task configuration: " ++ reason
  | .taskNotFound id => "Task not found: " ++ id
  | .lockTimeout id => "Lock timeout for task " ++ id
  | .storage fault => "Storage error: " ++ fault.message
  | .serialization error => "Serialization error: " ++ error.message
  | .io fault => "IO error: " ++ fault.text ++ " (os error " ++ toString fault.code ++ ")"
  | .internal reason => "Internal error: " ++ reason

def diagnostic : Failure → String
  | .unsupportedTask taskType => "UnsupportedTask(" ++ Text.quote taskType ++ ")"
  | .taskConfiguration reason => "TaskConfiguration(" ++ Text.quote reason ++ ")"
  | .taskNotFound id => "TaskNotFound(" ++ Text.quote id ++ ")"
  | .lockTimeout id => "LockTimeout(" ++ Text.quote id ++ ")"
  | .storage fault => "Storage(" ++ fault.diagnostic ++ ")"
  | .serialization error => "Serialization(" ++ error.diagnostic ++ ")"
  | .io fault =>
    "Io(Os \x7b code: " ++ toString fault.code ++ ", kind: " ++ fault.kind ++ ", message: " ++
      Text.quote fault.text ++ " \x7d)"
  | .internal reason => "Internal(" ++ Text.quote reason ++ ")"

/-- Is it a refusal of the task itself, made before anything is stored? -/
def isValidation : Failure → Bool
  | .unsupportedTask _ | .taskConfiguration _ => true
  | _ => false

end Failure

/-- Arithmetic that leaves its range. It ends the computation that runs into it. -/
inductive Overflow where
  /-- The counter of runs was at its limit. -/
  | counter
  /-- A duration left the range of durations. -/
  | duration
  /-- A wait for the write lock left the range of a database. -/
  | lockTimeout
deriving DecidableEq, Repr

def Overflow.message : Overflow → String
  | .counter => "attempt to add with overflow"
  | .duration => "overflow when multiplying duration by scalar"
  | .lockTimeout => "too big"

/-- How a call ends without a result. -/
inductive Abort where
  | failure (f : Failure)
  | overflow (o : Overflow)

end TaskCluster
