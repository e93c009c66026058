import TaskCluster.Failure
import TaskCluster.Job.Work
import TaskCluster.Json.Reader
import TaskCluster.Text.Blank

/-!
# Task types

A registry knows how to construct the work of each task type from a configuration. Construction is
validation too: a configuration that a type rejects is refused before a task is stored. Types are
listed in ascending order.
-/

namespace TaskCluster

/-- The configuration of a task, if it has one. -/
abbrev Config := Option Json.Object

namespace Config

/-- The value of a field. -/
def get? (c : Config) (key : String) : Option Json.Value := c.bind (Json.Object.get? key)

/-- A mandatory text that is not blank. -/
def text (c : Config) (key : String) : Except Failure String :=
  match c.get? key with
  | some (.str s) =>
    if Text.isBlank s then .error (.taskConfiguration (key ++ " must be a non empty string"))
    else .ok s
  | some _ => .error (.taskConfiguration (key ++ " must be a non empty string"))
  | none => .error (.taskConfiguration (key ++ " is missing"))

/-- A mandatory whole number that is not negative. -/
def natural (c : Config) (key : String) : Except Failure Nat :=
  match c.get? key with
  | some (.num (.int (.ofNat n))) => .ok n
  | some _ => .error (.taskConfiguration (key ++ " must be a non negative integer"))
  | none => .error (.taskConfiguration (key ++ " is missing"))

/-- The same, with a default for a missing field; a field that is null is not missing. -/
def naturalOr (c : Config) (key : String) (default : Nat) : Except Failure Nat :=
  match c.get? key with
  | some _ => c.natural key
  | none => .ok default

/-- Reads a configuration from JSON text, if there is a text. -/
def parse : Option String → Except Json.Error Config
  | none => .ok none
  | some s => (Json.Object.parse s).map some

/-- The configuration as JSON text. -/
def text? (c : Config) : Option String := c.map fun fields => (Json.Value.obj fields).compact

end Config

/-- Makes the work of a task from its configuration, or refuses the configuration. -/
abbrev Constructor := Config → Except Failure Work

/-- The task types with their constructors, ascending, each type once. -/
structure Registry where
  entries : List (String × Constructor) := []

namespace Registry

/-- Sets an entry; an entry of that type is replaced. -/
def insert (taskType : String) (make : Constructor) :
    List (String × Constructor) → List (String × Constructor)
  | [] => [(taskType, make)]
  | (t, m) :: rest =>
    if taskType < t then (taskType, make) :: (t, m) :: rest
    else if taskType = t then (taskType, make) :: rest
    else (t, m) :: insert taskType make rest

/-- Registers a constructor for a type, in place of any before. -/
def register (r : Registry) (taskType : String) (make : Constructor) : Registry :=
  ⟨insert taskType make r.entries⟩

/-- The types that are registered. -/
def types (r : Registry) : List String := r.entries.map Prod.fst

def contains (r : Registry) (taskType : String) : Bool := r.types.contains taskType

/-- The constructor of a type. -/
def find? (r : Registry) (taskType : String) : Option Constructor :=
  (r.entries.find? fun e => e.1 == taskType).map Prod.snd

/-- The work of a task. -/
def create (r : Registry) (taskType : String) (config : Config) : Except Failure Work :=
  match r.find? taskType with
  | none => .error (.unsupportedTask taskType)
  | some make => make config

/-- The diagnostic form of a registry. -/
def diagnostic (r : Registry) : String :=
  "TaskRegistry \x7b task_types: " ++ Text.quoteList r.types ++ " \x7d"

end Registry

/-! ### The built-in task types -/

/-- A job that sleeps for a time in a number of slices. -/
structure SleepJob where
  duration : Duration
  steps : Nat
deriving DecidableEq, Repr

/-- The most parts into which a sleep is cut; further slices are as long as that many. -/
def maxParts : Nat := UInt32.size - 1

namespace SleepJob

/-- The job of a configuration: a duration in milliseconds, and one slice unless told otherwise. -/
def ofConfig (c : Config) : Except Failure SleepJob := do
  let millis ← c.natural "duration_ms"
  let steps ← c.naturalOr "steps" 1
  if steps = 0 then .error (.taskConfiguration "steps must be greater than zero")
  else .ok ⟨.ofMillis millis, steps⟩

/-- The length of a slice. -/
def slice (j : SleepJob) : Duration := j.duration.part (min j.steps maxParts)

def work (j : SleepJob) : Work := .slices j.slice j.steps 0 j.steps

end SleepJob

/-- The work of a job that ends at once. -/
def noopWork : Work := .script [.log "Nothing to do"]

/-- The types `noop` and `sleep`. -/
def Registry.builtin : Registry :=
  Registry.register (Registry.register {} "noop" fun _ => .ok noopWork) "sleep" fun c =>
    (SleepJob.ofConfig c).map SleepJob.work

/-- A task type of a job that follows a script: the fields that its configuration must have, texts
first, then numbers. -/
structure ScriptedType where
  texts : List String := []
  naturals : List String := []
  actions : List Action := []

/-- Checks the fields in order. -/
def ScriptedType.construct (t : ScriptedType) : Constructor := fun c => do
  for key in t.texts do
    let _ ← c.text key
  for key in t.naturals do
    let _ ← c.natural key
  .ok (.script t.actions)

end TaskCluster
