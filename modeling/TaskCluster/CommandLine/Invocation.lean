import TaskCluster.CommandLine.Grammar
import TaskCluster.Settings
import TaskCluster.Store.Call

/-!
# The commands

The program starts a node, or works on a database by itself: it lists the task types, creates a
task, shows one or many, and asks one to stop. `program` is the grammar of its command line, and
`Invocation.parse` takes apart what the grammar accepts.
-/

namespace TaskCluster.CommandLine

/-- How results are shown. -/
inductive Format where
  | table
  | json
deriving DecidableEq, Repr

/-- What a node is started with. -/
structure ServerArguments where
  node : String := "node-1"
  database : String := "tasker.db"
  apiPort : Nat := 8080
  noApi : Bool := false
  maxRunning : Nat := 2
  heartbeatMillis : Nat := 10000
  waitMillis : Nat := 2000
  startupMillis : Nat := 10000
  lockMillis : Nat := 2000
deriving DecidableEq, Repr

namespace ServerArguments

/-- The settings of the runner. -/
def runner (a : ServerArguments) : RunnerSettings :=
  { maxRunning := a.maxRunning
    wait := .ofMillis a.waitMillis
    heartbeatPeriod := .ofMillis a.heartbeatMillis
    startupDelay := .ofMillis a.startupMillis }

/-- The settings of the store. -/
def store (a : ServerArguments) : StoreSettings := { lockTimeout := .ofMillis a.lockMillis }

end ServerArguments

inductive TaskCommand where
  | types
  | create (taskType : String) (config : Option String)
  | status (id : String)
  | list (l : Listing)
  | cancel (id : String)
deriving DecidableEq, Repr

/-- What the program is asked to do. -/
inductive Invocation where
  | server (args : ServerArguments)
  | task (database : String) (format : Format) (command : TaskCommand)
deriving DecidableEq, Repr

/-! ### The grammar -/

def serverSpec : CommandSpec :=
  .mk "server" "Start a tasker-lite cluster node" [
    { name := "node-id", kind := some .text },
    { name := "database", kind := some .path },
    { name := "api-port", kind := some .port },
    { name := "no-api" },
    { name := "max-running-tasks", kind := some .natural },
    { name := "heartbeat-period-ms", kind := some .natural },
    { name := "runner-wait-ms", kind := some .natural },
    { name := "startup-delay-ms", kind := some .natural },
    { name := "lock-timeout-ms", kind := some .natural }] [] []

def taskSpec : CommandSpec :=
  .mk "task" "Task management commands, working directly on the shared database" [
    { name := "database", short := some 'd', kind := some .path },
    { name := "output", short := some 'o', kind := some (.choice ["table", "json"]) }] [] [
    .mk "types" "List supported task types" [] [] [],
    .mk "create" "Create a new task" [
      { name := "config", short := some 'c', kind := some .text }] ["TASK_TYPE"] [],
    .mk "status" "Get status of a specific task" [] ["TASK_ID"] [],
    .mk "list" "List tasks, newest first" [
      { name := "task-type", kind := some .text },
      { name := "status", kind := some .status, many := true },
      { name := "from", kind := some .natural },
      { name := "size", kind := some .natural }] [] [],
    .mk "cancel" "Request cancellation of a task" [] ["TASK_ID"] []]

def program : CommandSpec :=
  .mk "tasker-lite" "A distributed long-running task scheduler" [] [] [serverSpec, taskSpec]

/-! ### Taking apart -/

namespace Given

/-- All values of an option. -/
def values (g : Given) (name : String) : List Value :=
  (g.options.filter fun o => o.1 == name).flatMap Prod.snd

def text? (g : Given) (name : String) : Option String :=
  match g.values name with
  | .text s :: _ => some s
  | _ => none

def number? (g : Given) (name : String) : Option Nat :=
  match g.values name with
  | .number n :: _ => some n
  | _ => none

def statuses (g : Given) (name : String) : List Status :=
  (g.values name).filterMap fun
    | .status s => some s
    | _ => none

def isSet (g : Given) (name : String) : Bool := g.options.any fun o => o.1 == name

/-- The first argument. -/
def argument (g : Given) : String := g.arguments.headD ""

end Given

def ServerArguments.ofGiven (g : Given) : ServerArguments :=
  let d : ServerArguments := {}
  { node := (g.text? "node-id").getD d.node
    database := (g.text? "database").getD d.database
    apiPort := (g.number? "api-port").getD d.apiPort
    noApi := g.isSet "no-api"
    maxRunning := (g.number? "max-running-tasks").getD d.maxRunning
    heartbeatMillis := (g.number? "heartbeat-period-ms").getD d.heartbeatMillis
    waitMillis := (g.number? "runner-wait-ms").getD d.waitMillis
    startupMillis := (g.number? "startup-delay-ms").getD d.startupMillis
    lockMillis := (g.number? "lock-timeout-ms").getD d.lockMillis }

/-- How many tasks a listing shows unless told otherwise. -/
def defaultSize : Nat := 20

def TaskCommand.ofGiven (name : String) (g : Given) : TaskCommand :=
  match name with
  | "create" => .create g.argument (g.text? "config")
  | "status" => .status g.argument
  | "list" =>
    .list {
      taskType := g.text? "task-type"
      statuses := g.statuses "status"
      start := (g.number? "from").getD 0
      size := (g.number? "size").getD defaultSize }
  | "cancel" => .cancel g.argument
  | _ => .types

def Format.ofGiven (g : Given) : Format :=
  match g.text? "output" with
  | some "json" => .json
  | _ => .table

/-- What the levels of a command line ask for. -/
def Invocation.ofLevels : List (String × Given) → Invocation
  | [_, (_, client), (name, g)] =>
    .task ((client.text? "database").getD "tasker.db") (.ofGiven client) (.ofGiven name g)
  | [_, (_, g)] => .server (.ofGiven g)
  | _ => .server {}

/-- Reads a command line. -/
def Invocation.parse (args : List String) : Except Refusal Invocation :=
  (program.read args).map ofLevels

end TaskCluster.CommandLine
