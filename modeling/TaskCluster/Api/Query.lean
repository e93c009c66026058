import TaskCluster.Store.Call
import TaskCluster.Text.Numeral
import TaskCluster.Text.Percent
import TaskCluster.Text.Split
import TaskCluster.Text.Utf8

/-!
# Queries

A query is a list of pairs, with a plus sign for a blank and escapes for other bytes. The query of a
listing has four fields; others are passed over. The first pair that is wrong decides about the
fault.
-/

namespace TaskCluster.Api

/-- The text that an encoded text of a query stands for. -/
def decodeForm (cs : List Char) : String :=
  let blanks := cs.map fun c => if c = '+' then ' ' else c
  Text.Utf8.decodeLossy (Text.Percent.decode (Text.Utf8.encode (String.ofList blanks)))

/-- The pairs of a query, empty ones left out. -/
def formPairs (query : List Char) : List (String × String) :=
  ((Text.split '&' query).filter fun pair => !pair.isEmpty).map fun pair =>
    let key := pair.takeWhile fun c => c ≠ '='
    let value := (pair.dropWhile fun c => c ≠ '=').drop 1
    (decodeForm key, decodeForm value)

/-- Why a query asks for no listing. -/
inductive QueryFault where
  | duplicate (field : String)
  | number (fault : Text.NumeralFault)
deriving DecidableEq, Repr

def QueryFault.message : QueryFault → String
  | .duplicate field => "duplicate field `" ++ field ++ "`"
  | .number fault => fault.message

/-- The fields of the query of a listing. -/
structure ListingQuery where
  taskType : Option String := none
  /-- Statuses, separated by commas. -/
  taskStatus : Option String := none
  start : Option Nat := none
  size : Option Nat := none
deriving DecidableEq, Repr

namespace ListingQuery

/-- The value of a field that was not set before. -/
def once {α : Type} (name : String) (before : Option α) (value : Except QueryFault α) :
    Except QueryFault (Option α) :=
  match before with
  | some _ => .error (.duplicate name)
  | none => value.map some

/-- A number in a field. -/
def number (s : String) : Except QueryFault Nat :=
  match Text.parseNatural Text.maxNatural64 s with
  | .ok n => .ok n
  | .error e => .error (.number e)

/-- Sets the field of a pair. -/
def set (q : ListingQuery) (pair : String × String) : Except QueryFault ListingQuery :=
  match pair.1 with
  | "taskType" => do .ok { q with taskType := ← once pair.1 q.taskType (.ok pair.2) }
  | "taskStatus" => do .ok { q with taskStatus := ← once pair.1 q.taskStatus (.ok pair.2) }
  | "from" => do .ok { q with start := ← once pair.1 q.start (number pair.2) }
  | "size" => do .ok { q with size := ← once pair.1 q.size (number pair.2) }
  | _ => .ok q

/-- Reads the fields of a query. -/
def parse (query : List Char) : Except QueryFault ListingQuery :=
  (formPairs query).foldlM set {}

/-- The listing that is asked for. -/
def listing (q : ListingQuery) : Except Status.Unknown Listing := do
  let statuses ← Status.parseList (q.taskStatus.getD "")
  .ok { taskType := q.taskType, statuses, start := q.start.getD 0, size := q.size.getD 0 }

end ListingQuery

end TaskCluster.Api
