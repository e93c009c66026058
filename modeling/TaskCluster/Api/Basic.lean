import TaskCluster.Api.Query
import TaskCluster.Api.Target
import TaskCluster.Cluster.Manager
import TaskCluster.Record.Codec

/-!
# The interface of a node over requests

A request names a method, a target and a body. Three kinds of paths have a meaning: the task types,
the tasks, and a single task by its id, or by its type where one is created. A response to any
request may be read from everywhere, and a request for options says so.
-/

namespace TaskCluster.Api

structure Request where
  method : String
  target : Target
  body : List UInt8 := []

/-- Why a request cannot be made. -/
inductive RequestFault where
  | method
  | target (fault : TargetFault)
  | headerName
  | headerValue
deriving DecidableEq, Repr

def RequestFault.message : RequestFault → String
  | .method => "invalid HTTP method"
  | .target fault => fault.message
  | .headerName => "invalid HTTP header name"
  | .headerValue => "failed to parse header value"

/-- Is a text a token: a method or the name of a header? -/
def isToken (s : String) : Bool :=
  !s.isEmpty && s.toList.all fun c =>
    c.isAlphanum || "!#$%&*+-.^_|~".toList.contains c || c.toNat = 0x27 || c.toNat = 0x60

/-- Is a text the value of a header? All beyond ASCII may stand in it. -/
def isHeaderValue (s : String) : Bool :=
  s.toList.all fun c => c = '\t' || (32 ≤ c.toNat && c.toNat ≠ 127)

/-- The fault of the first header that is wrong. -/
def headerFault? : List (String × String) → Option RequestFault
  | [] => none
  | (name, value) :: rest =>
    if !isToken name then some .headerName
    else if !isHeaderValue value then some .headerValue
    else headerFault? rest

/-- The request of a method, a target, headers and a body. The headers have no effect. -/
def Request.make (method target : String) (headers : List (String × String))
    (body : List UInt8) : Except RequestFault Request :=
  if !isToken method then .error .method
  else
    match Target.parse target with
    | .error fault => .error (.target fault)
    | .ok target =>
      match headerFault? headers with
      | some fault => .error fault
      | none => .ok { method, target, body }

/-- How the body of a response is to be read. -/
inductive Content where
  | json
  | text
deriving DecidableEq, Repr

def Content.name : Content → String
  | .json => "application/json"
  | .text => "text/plain; charset=utf-8"

structure Response where
  status : Nat
  content : Option Content := none
  /-- The methods that the path has, where the response lists them. -/
  allow : Option (List String) := none
  /-- Is it an answer about options? -/
  options : Bool := false
  body : String := ""
deriving DecidableEq, Repr

namespace Response

/-- The headers with a meaning for the reader, by name. -/
def headers (r : Response) : List (String × String) :=
  (if r.options then
    [("access-control-allow-headers", "*"), ("access-control-allow-methods", "*")] else []) ++
  [("access-control-allow-origin", "*")] ++
  (match r.allow with
    | none => []
    | some methods => [("allow", ",".intercalate methods)]) ++
  (match r.content with
    | none => []
    | some content => [("content-type", content.name)])

def json (v : Json.Value) : Response := { status := 200, content := some .json, body := v.compact }

def text (status : Nat) (body : String) : Response := { status, content := some .text, body }

/-- The answer to a call that the store refused. -/
def internal : Abort → Response
  | .failure f => text 500 f.message
  | .overflow o => text 500 o.message

/-- The answer without its body. -/
def withoutBody (r : Response) : Response := { r with body := "" }

end Response

/-! ### Paths -/

/-- What a path names. -/
inductive Route where
  | types
  | tasks
  /-- A single task, by the segment as it is written. -/
  | task (segment : List Char)
  | unknown
deriving DecidableEq, Repr

def Route.ofPath (path : List Char) : Route :=
  match Text.split '/' path with
  | [[], root, name] =>
    if root ≠ "tasks".toList then .unknown
    else if name = "type".toList then .types
    else if name = "task".toList then .tasks
    else .unknown
  | [[], root, name, segment] =>
    if root = "tasks".toList ∧ name = "task".toList ∧ segment ≠ [] then .task segment
    else .unknown
  | _ => .unknown

/-- The methods of a path. -/
def Route.methods : Route → List String
  | .types | .tasks => ["GET", "HEAD"]
  | .task _ => ["GET", "HEAD", "POST", "DELETE"]
  | .unknown => []

/-- The text that a segment of a path stands for, if it is one. -/
def decodeSegment (segment : List Char) : Option String :=
  match Text.Utf8.decode? (Text.Percent.decode (Text.Utf8.encode (String.ofList segment))) with
  | .ok s => some s
  | .error _ => none

/-! ### Answers -/

/-- What a request does: it answers, and the manager and what it shares change. -/
abbrev Handler := Manager → Shared → Response × Manager × Shared

/-- The tasks of a listing. -/
def listTasks (query : Option (List Char)) : Handler := fun m s =>
  match ListingQuery.parse (query.getD []) with
  | .error e => (.text 400 ("Failed to deserialize query string: " ++ e.message), m, s)
  | .ok q =>
    match q.listing with
    | .error e => (.text 400 e.message, m, s)
    | .ok l =>
      match m.list l s with
      | (.ok records, s) => (.json (.arr (records.map Record.toJson)), m, s)
      | (.error e, s) => (.internal e, m, s)

/-- The record of a task. -/
def getTask (id : String) : Handler := fun m s =>
  match m.get id s with
  | (.ok (some r), s) => (.json r.toJson, m, s)
  | (.ok none, s) => (.text 404 "Task not found", m, s)
  | (.error e, s) => (.internal e, m, s)

/-- Is a byte a blank of ASCII? -/
def isBlankByte (b : UInt8) : Bool := b = 32 || b = 9 || b = 10 || b = 12 || b = 13

/-- The most bytes of a body. -/
def maxBody : Nat := 2097152

/-- The configuration in a body; a blank body has none. -/
def configOfBody (body : List UInt8) : Except Json.Error Config :=
  if body.all isBlankByte then .ok none else (Json.Object.parseBytes body).map some

/-- The words about a configuration that is refused. -/
def invalidConfig (reason : String) : Response :=
  .text 400 ("Configuration is invalid for used taskType: " ++ reason)

/-- Creates a task of a type. -/
def createTask (registry : Registry) (taskType : String) (body : List UInt8) : Handler :=
  fun m s =>
    if maxBody < body.length then
      (.text 413 "Failed to buffer the request body: length limit exceeded", m, s)
    else
      match configOfBody body with
      | .error e => (invalidConfig e.message, m, s)
      | .ok config =>
        match m.create registry taskType config s with
        | (.ok id, m, s) => (.json (.object [("id", .str id)]), m, s)
        | (.error (.failure (.unsupportedTask _)), m, s) =>
          (.text 400 "Used taskType is not supported", m, s)
        | (.error (.failure (.taskConfiguration reason)), m, s) => (invalidConfig reason, m, s)
        | (.error e, m, s) => (.internal e, m, s)

/-- Asks a task to stop. -/
def cancelTask (id : String) : Handler := fun m s =>
  match m.cancel id s with
  | (.ok true, s) => (.text 200 "Task canceled", m, s)
  | (.ok false, s) => (.text 200 "Task not canceled", m, s)
  | (.error e, s) => (.internal e, m, s)

/-- An answer that changes nothing. -/
def reply (r : Response) : Handler := fun m s => (r, m, s)

/-- Answers for a single task, whose segment must be text. -/
def withSegment (segment : List Char) (answer : String → Handler) : Handler :=
  match decodeSegment segment with
  | some s => answer s
  | none => reply (.text 400 "Invalid URL: Invalid UTF-8 in `id`")

/-- Reads: the answers to `GET`. -/
def read (registry : Registry) (target : Target) : Handler :=
  match Route.ofPath target.path with
  | .types => reply (.json (.arr (registry.types.map .str)))
  | .tasks => listTasks target.query
  | .task segment => withSegment segment getTask
  | .unknown => reply { status := 404 }

/-- Answers a request at the manager of a node. -/
def respond (registry : Registry) (r : Request) : Handler :=
  let route := Route.ofPath r.target.path
  if r.method = "OPTIONS" then
    reply {
      status := 200
      options := true
      allow := if route = .unknown then none else some route.methods }
  else
    match route, r.method with
    | .unknown, _ => reply { status := 404 }
    | _, "GET" => read registry r.target
    | _, "HEAD" => fun m s =>
      let (response, m, s) := read registry r.target m s
      (response.withoutBody, m, s)
    | .task segment, "POST" =>
      withSegment segment fun taskType => createTask registry taskType r.body
    | .task segment, "DELETE" => withSegment segment cancelTask
    | route, _ => reply { status := 405, allow := some route.methods }

end TaskCluster.Api
