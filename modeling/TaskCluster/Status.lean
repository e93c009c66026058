import TaskCluster.Json.Reader
import TaskCluster.Text.Blank
import TaskCluster.Text.Split

/-!
# The status of a task

A task is `new` until a node claims it, `running` under a claim, and `failover` when its run was
lost and it waits for another one. The other three statuses are terminal. `canChangeTo` is the
transition table that every write to a record obeys.
-/

namespace TaskCluster

inductive Status where
  | new
  | running
  | failover
  | canceled
  | finishedOk
  | finishedError
deriving DecidableEq, Repr

namespace Status

/-- All statuses in their order. -/
def all : List Status := [.new, .running, .failover, .canceled, .finishedOk, .finishedError]

def name : Status → String
  | .new => "NEW"
  | .running => "RUNNING"
  | .failover => "FAILOVER"
  | .canceled => "CANCELED"
  | .finishedOk => "FINISHED_OK"
  | .finishedError => "FINISHED_ERROR"

/-- The status of an exact name. -/
def ofName? (s : String) : Option Status := all.find? fun status => status.name == s

/-- Has the task ended for good? -/
def isTerminal : Status → Bool
  | .canceled | .finishedOk | .finishedError => true
  | _ => false

/-- May a node start the task? -/
def isRunnable : Status → Bool
  | .new | .failover => true
  | _ => false

/-- May the task still be asked to stop? -/
def isCancelable : Status → Bool
  | .new | .running | .failover => true
  | _ => false

/-- The transition table. -/
def canChangeTo : Status → Status → Bool
  | .new, .running | .new, .canceled => true
  | .running, .canceled | .running, .failover => true
  | .running, .finishedError | .running, .finishedOk => true
  | .failover, .running | .failover, .canceled => true
  | _, _ => false

/-- A text that names no status. -/
structure Unknown where
  text : String
deriving DecidableEq, Repr

def Unknown.message (e : Unknown) : String := "Unknown task status: " ++ e.text

/-- Reads a status in any ASCII letter case with white space around it. -/
def parse (s : String) : Except Unknown Status :=
  match ofName? (Text.upper (Text.trim s)) with
  | some status => .ok status
  | none => .error ⟨s⟩

/-- The names in a comma separated list, blank ones left out; the first bad name counts. -/
def parseList (s : String) : Except Unknown (List Status) :=
  ((Text.splitOn ',' s).filter fun part => !Text.isBlank part).mapM parse

theorem ofName?_name (s : Status) : ofName? s.name = some s := by cases s <;> decide

end Status

/-! ### In JSON -/

namespace Status

/-- The status of an exact name in JSON. -/
def ofJsonName (s : String) : Except Json.Cause Status :=
  match ofName? s with
  | some status => .ok status
  | none => .error (.unknownVariant s (all.map name))

/-- A status as the only key of an object whose value is null, from behind the opening brace on. -/
def keyed (bytes : List UInt8) : Except Json.Stop (Status × List UInt8) := do
  let keyAt := Json.Reader.skipBlanks bytes
  let (status, rest) ← match keyAt with
    | [] => Json.Reader.stopAtNext .eofInValue []
    | b :: rest =>
      if b = 34 then do
        let (s, rest) ← Json.Reader.stringTail rest
        match ofJsonName s with
        | .ok status => .ok (status, rest)
        | .error cause => Json.Reader.stopHere cause rest
      else Json.Reader.unexpected "variant identifier" (b :: rest)
  let rest ← Json.Reader.colon rest
  let rest ← match Json.Reader.skipBlanks rest with
    | [] => Json.Reader.stopAtNext .eofInValue []
    | b :: rest =>
      if b = 110 then Json.Reader.word Json.Reader.nullTail rest
      else Json.Reader.unexpected "unit" (b :: rest)
  match Json.Reader.skipBlanks rest with
  | [] => Json.Reader.stopHere .eofInObject []
  | b :: rest =>
    if b = 125 then .ok (status, rest) else Json.Reader.stopHere .expectedValue (b :: rest)

/-- A status: a string, or an object with the status as its only key. -/
def reader : Json.Reader Status := fun bytes =>
  match Json.Reader.skipBlanks bytes with
  | [] => Json.Reader.stopAtNext .eofInValue []
  | b :: rest =>
    if b = 34 then do
      let (s, rest) ← Json.Reader.stringTail rest
      match ofJsonName s with
      | .ok status => .ok (status, rest)
      | .error cause => Json.Reader.stopHere cause rest
    else if b = 123 then keyed rest
    else Json.Reader.stopAtNext .expectedValue (b :: rest)

/-- Reads a status from a JSON text. -/
def parseJson (s : String) : Except Json.Error Status :=
  Json.Reader.run reader (Text.Utf8.encode s)

/-- Reads a status from a JSON value. -/
def ofJson : Json.Value → Except Json.Cause Status
  | .str s => ofJsonName s
  | .obj [(key, value)] => do
    let status ← ofJsonName key
    match value with
    | .null => .ok status
    | other => .error (.invalidType other.found "unit")
  | .obj _ => .error (.invalidValue .map "map with a single key")
  | other => .error (.invalidType other.found "string or map")

end Status

end TaskCluster
