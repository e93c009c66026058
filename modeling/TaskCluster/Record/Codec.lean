import TaskCluster.Json.Skip
import TaskCluster.Record.Basic
import TaskCluster.Time.Rfc3339

/-!
# Records as JSON

A record is written as an object of its twelve fields. It is read from such an object, with the
fields in any order, unknown fields skipped and optional ones left out, or from a list of the twelve
values in order. The same table of fields serves for texts, where an error has a place, and for
values, where it has none.
-/

namespace TaskCluster.Record

/-- What the fields of a record are expected to be, as a refusal calls it. -/
def expectedText : String := "struct TaskStatusInfo"

/-- What a list of the values is expected to be. -/
def expectedList : String := expectedText ++ " with 12 elements"

/-- What a time is expected to be. -/
def expectedTime : String := "an RFC 3339 formatted date and time string"

/-! ### Writing -/

/-- A time, or null for none. -/
def timeJson : Option Instant → Json.Value
  | none => .null
  | some t => .str t.rfc3339

/-- The fields in the order in which they are written. -/
def toJson (r : Record) : Json.Value :=
  .obj [
    ("id", .str r.id),
    ("task_type", .str r.taskType),
    ("task_config_serialized", .str? r.config),
    ("status", .str r.status.name),
    ("created_at", .str r.createdAt.rfc3339),
    ("last_run_started_at", timeJson r.startedAt),
    ("last_run_finished_at", timeJson r.finishedAt),
    ("run_count", .int r.runCount.toNat),
    ("execution_node_id", .str? r.node),
    ("heartbeat", .int r.heartbeat.toInt),
    ("cancel_requested", .bool r.cancelRequested),
    ("processing_log", .str? r.log)]

/-- The record as JSON text. -/
def toText (r : Record) : String := r.toJson.compact

/-! ### Single values -/

/-- The meaning of a text as a time. -/
def timeOfText (s : String) : Except Json.Cause Instant :=
  match Instant.parse s with
  | .ok t => .ok t
  | .error fault => .error (.rejected fault.message)

/-- The meaning of a number as a counter. -/
def counterOfNumber : Json.Number → Except Json.Cause UInt32
  | .int i =>
    if 0 ≤ i ∧ i < UInt32.size then .ok (UInt32.ofNat i.toNat)
    else .error (.invalidValue (.int i) "u32")
  | .float f => .error (.invalidType (.float f) "u32")

/-- The meaning of a number as milliseconds. -/
def millisOfNumber : Json.Number → Except Json.Cause Int64
  | .int i =>
    if Int64.minValue.toInt ≤ i ∧ i ≤ Int64.maxValue.toInt then .ok (Int64.ofInt i)
    else .error (.invalidValue (.int i) "i64")
  | .float f => .error (.invalidType (.float f) "i64")

/-- How a value of a field is read from a text and taken from a JSON value. -/
structure Shape (α : Type) where
  read : Json.Reader α
  take : Json.Value → Except Json.Cause α

namespace Shape

def text : Shape String where
  read := Json.Reader.text Json.Reader.textExpected
  take
    | .str s => .ok s
    | v => .error (.invalidType v.found Json.Reader.textExpected)

def time : Shape Instant where
  read := Json.Reader.textAs expectedTime timeOfText
  take
    | .str s => timeOfText s
    | v => .error (.invalidType v.found expectedTime)

def counter : Shape UInt32 where
  read := Json.Reader.numberAs "u32" counterOfNumber
  take
    | .num n => counterOfNumber n
    | v => .error (.invalidType v.found "u32")

def millis : Shape Int64 where
  read := Json.Reader.numberAs "i64" millisOfNumber
  take
    | .num n => millisOfNumber n
    | v => .error (.invalidType v.found "i64")

def bool : Shape Bool where
  read := Json.Reader.bool
  take
    | .bool b => .ok b
    | v => .error (.invalidType v.found Json.Reader.boolExpected)

def status : Shape Status where
  read := Status.reader
  take := Status.ofJson

/-- Null, or a value of a shape. -/
def optional {α : Type} (s : Shape α) : Shape (Option α) where
  read := Json.Reader.optional s.read
  take
    | .null => .ok none
    | v => (s.take v).map some

end Shape

/-! ### Fields -/

/-- What was read of a record so far. -/
structure Draft where
  id : Option String := none
  taskType : Option String := none
  config : Option (Option String) := none
  status : Option Status := none
  createdAt : Option Instant := none
  startedAt : Option (Option Instant) := none
  finishedAt : Option (Option Instant) := none
  runCount : Option UInt32 := none
  node : Option (Option String) := none
  heartbeat : Option Int64 := none
  cancelRequested : Option Bool := none
  log : Option (Option String) := none

/-- A field of a record: whether it was read before, and how it is read into a draft. -/
structure Field where
  name : String
  isSet : Draft → Bool
  read : Draft → Json.Reader Draft
  take : Draft → Json.Value → Except Json.Cause Draft

/-- A field of a shape, with its place in the draft. -/
def field {α : Type} (name : String) (shape : Shape α) (get : Draft → Option α)
    (set : Draft → α → Draft) : Field where
  name := name
  isSet d := (get d).isSome
  read d bytes := do
    let (a, rest) ← shape.read bytes
    .ok (set d a, rest)
  take d v := (shape.take v).map (set d)

/-- The twelve fields in order. -/
def fields : List Field := [
  field "id" .text Draft.id fun d a => { d with id := some a },
  field "task_type" .text Draft.taskType fun d a => { d with taskType := some a },
  field "task_config_serialized" (.optional .text) Draft.config fun d a =>
    { d with config := some a },
  field "status" .status Draft.status fun d a => { d with status := some a },
  field "created_at" .time Draft.createdAt fun d a => { d with createdAt := some a },
  field "last_run_started_at" (.optional .time) Draft.startedAt fun d a =>
    { d with startedAt := some a },
  field "last_run_finished_at" (.optional .time) Draft.finishedAt fun d a =>
    { d with finishedAt := some a },
  field "run_count" .counter Draft.runCount fun d a => { d with runCount := some a },
  field "execution_node_id" (.optional .text) Draft.node fun d a => { d with node := some a },
  field "heartbeat" .millis Draft.heartbeat fun d a => { d with heartbeat := some a },
  field "cancel_requested" .bool Draft.cancelRequested fun d a =>
    { d with cancelRequested := some a },
  field "processing_log" (.optional .text) Draft.log fun d a => { d with log := some a }]

/-- A value that must be there. -/
def required {α : Type} (name : String) : Option α → Except Json.Cause α
  | some a => .ok a
  | none => .error (.missingField name)

/-- The record of a draft; the first missing field that is not optional is reported. -/
def Draft.finish (d : Draft) : Except Json.Cause Record := do
  let id ← required "id" d.id
  let taskType ← required "task_type" d.taskType
  let status ← required "status" d.status
  let createdAt ← required "created_at" d.createdAt
  let runCount ← required "run_count" d.runCount
  let heartbeat ← required "heartbeat" d.heartbeat
  let cancelRequested ← required "cancel_requested" d.cancelRequested
  .ok {
    id, taskType, status, createdAt, runCount, heartbeat, cancelRequested
    config := d.config.join
    startedAt := d.startedAt.join
    finishedAt := d.finishedAt.join
    node := d.node.join
    log := d.log.join }

/-! ### Reading a text -/

/-- How many bytes lie behind the end of an object that ends next, or behind the blanks if it does
not. -/
def leftBehindObject (bytes : List UInt8) : Nat :=
  match Json.Reader.skipBlanks bytes with
  | 125 :: rest => rest.length
  | rest => rest.length

/-- The same for a list. -/
def leftBehindList (bytes : List UInt8) : Nat :=
  match Json.Reader.skipBlanks bytes with
  | 93 :: rest => rest.length
  | rest => rest.length

/-- The fields of an object from behind its opening brace on. -/
def readFields : Nat → Bool → Draft → List UInt8 → Except Json.Stop (Draft × List UInt8)
  | 0, _, _, rest => Json.Reader.stopAtNext .eofInObject rest
  | fuel + 1, first, d, bytes => do
    match ← Json.Reader.nextKey first bytes with
    | none => .ok (d, bytes)
    | some key =>
      let (name, rest) ← Json.Reader.stringTail key
      match fields.find? fun f => f.name == name with
      | none =>
        let rest ← Json.Reader.colon rest
        let rest ← Json.Reader.skip rest
        readFields fuel false d rest
      | some f =>
        if f.isSet d then .error ⟨.duplicateField name, leftBehindObject rest⟩
        else
          let rest ← Json.Reader.colon rest
          let (d, rest) ← f.read d rest
          readFields fuel false d rest

/-- The values of a list in the order of the fields. -/
def readList : Nat → List Field → Draft → List UInt8 → Except Json.Stop (Draft × List UInt8)
  | _, [], d, bytes => .ok (d, bytes)
  | count, f :: fs, d, bytes => do
    match ← Json.Reader.nextItem (count = 0) bytes with
    | none => .error ⟨.invalidLength count expectedList, leftBehindList bytes⟩
    | some start =>
      let (d, rest) ← f.read d start
      readList (count + 1) fs d rest

/-- A record. -/
def reader : Json.Reader Record := fun bytes =>
  let finish (d : Draft) (left : Nat) : Except Json.Stop Record :=
    match d.finish with
    | .ok r => .ok r
    | .error cause => .error ⟨cause, left⟩
  match Json.Reader.skipBlanks bytes with
  | [] => Json.Reader.stopAtNext .eofInValue []
  | b :: rest =>
    if b = 123 then do
      let (d, rest) ← readFields (rest.length + 1) true {} rest
      let r ← finish d (leftBehindObject rest)
      .ok (r, ← Json.Reader.objectEnd rest)
    else if b = 91 then do
      let (d, rest) ← readList 0 fields {} rest
      let r ← finish d (leftBehindList rest)
      .ok (r, ← Json.Reader.listEnd rest)
    else Json.Reader.unexpected expectedText (b :: rest)

/-- Reads a record from a JSON text. -/
def parse (s : String) : Except Json.Error Record :=
  Json.Reader.run reader (Text.Utf8.encode s)

/-! ### Taking a value apart -/

/-- The fields of an object. -/
def takeFields (d : Draft) : List (String × Json.Value) → Except Json.Cause Draft
  | [] => .ok d
  | (name, v) :: rest =>
    match fields.find? fun f => f.name == name with
    | none => takeFields d rest
    | some f => do takeFields (← f.take d v) rest

/-- The items of a list in the order of the fields. -/
def takeList : Nat → List Field → Draft → List Json.Value → Except Json.Cause Draft
  | _, [], d, _ => .ok d
  | count, _ :: _, _, [] => .error (.invalidLength count expectedList)
  | count, f :: fs, d, v :: rest => do takeList (count + 1) fs (← f.take d v) rest

/-- The record that a JSON value stands for. -/
def ofJson : Json.Value → Except Json.Cause Record
  | .obj fs => do (← takeFields {} fs).finish
  | .arr items => do
    let d ← takeList 0 fields {} items
    if fields.length < items.length then
      .error (.invalidLength items.length "fewer elements in array")
    else d.finish
  | v => .error (.invalidType v.found expectedText)

end TaskCluster.Record
