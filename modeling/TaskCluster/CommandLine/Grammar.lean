import TaskCluster.Status
import TaskCluster.Text.Numeral

/-!
# The grammar of a command line

A command has options, which stand before or between its other arguments, and either places for
arguments or commands below it. An option is written in a long form, `--name value` or
`--name=value`, or in a short one, `-n value`, `-nvalue` or `-n=value`. Behind `--` nothing is an
option.

A value is checked when the next option or argument begins or when the command line ends, so the
first fault in this order is reported; a command below is read before the last value above it.
-/

namespace TaskCluster.CommandLine

/-! ### Values -/

/-- What a value must be. -/
inductive ValueKind where
  | text
  | path
  /-- A number of 64 bits. -/
  | natural
  /-- A number of 16 bits. -/
  | port
  | choice (names : List String)
  | status
deriving DecidableEq, Repr

inductive Value where
  | text (s : String)
  | number (n : Nat)
  | status (s : Status)
deriving DecidableEq, Repr

/-- Why a text is no value of a kind. -/
inductive ValueFault where
  /-- The text is empty. -/
  | missing
  /-- The text is none of the choices. -/
  | notListed
  | reason (text : String)
deriving DecidableEq, Repr

/-- The greatest number of 16 bits. -/
def maxPort : Nat := UInt16.size - 1

/-- A number of 16 bits. It is read as a number with a sign before its range is looked at. -/
def parsePort (s : String) : Except ValueFault Nat :=
  match Text.parseInteger s with
  | .error e => .error (.reason e.message)
  | .ok (.ofNat n) =>
    if n ≤ maxPort then .ok n
    else .error (.reason (toString n ++ " is not in 0..=" ++ toString maxPort))
  | .ok i => .error (.reason (toString i ++ " is not in 0..=" ++ toString maxPort))

/-- Reads a value of a kind. -/
def ValueKind.parse (kind : ValueKind) (s : String) : Except ValueFault Value :=
  match kind with
  | .text => .ok (.text s)
  | .path => if s.isEmpty then .error .missing else .ok (.text s)
  | .natural =>
    match Text.parseNatural Text.maxNatural64 s with
    | .ok n => .ok (.number n)
    | .error e => .error (.reason e.message)
  | .port => (parsePort s).map .number
  | .choice names =>
    if names.contains s then .ok (.text s)
    else if s.isEmpty then .error .missing
    else .error .notListed
  | .status =>
    match Status.parse s with
    | .ok parsed => .ok (.status parsed)
    | .error e => .error (.reason e.message)

/-! ### Commands -/

structure OptionSpec where
  name : String
  short : Option Char := none
  /-- What its value must be; a flag has none. -/
  kind : Option ValueKind := none
  /-- May it be given more than once, and with several values between commas? -/
  many : Bool := false
deriving DecidableEq, Repr

/-- How an option is called in messages. -/
def OptionSpec.shown (o : OptionSpec) : String :=
  match o.kind with
  | none => "--" ++ o.name
  | some _ =>
    let value := o.name.map fun c => if c = '-' then '_' else c
    "--" ++ o.name ++ " <" ++ Text.upper value ++ ">"

inductive CommandSpec where
  | mk (name about : String) (options : List OptionSpec) (arguments : List String)
      (commands : List CommandSpec)

namespace CommandSpec

def name : CommandSpec → String
  | mk name _ _ _ _ => name

def about : CommandSpec → String
  | mk _ about _ _ _ => about

def options : CommandSpec → List OptionSpec
  | mk _ _ options _ _ => options

/-- The arguments that it must have, in order. -/
def arguments : CommandSpec → List String
  | mk _ _ _ arguments _ => arguments

/-- The commands below. -/
def commands : CommandSpec → List CommandSpec
  | mk _ _ _ _ commands => commands

/-- The command of a name below. -/
def find? (c : CommandSpec) (name : String) : Option CommandSpec :=
  c.commands.find? fun below => below.name == name

end CommandSpec

/-- Why a command line is not carried out. -/
inductive Refusal where
  | unexpectedArgument (text : String)
  | unexpectedValue (value option : String)
  | missingValue (option : String)
  | invalidValue (value option : String) (reason : Option String)
  | repeated (option : String)
  | missingArguments
  | unknownCommand (name : String)
  | missingCommand (above : String)
  /-- Nothing was given where something is needed. -/
  | nothingGiven (about : String)
  | help (about : String)
  | version (command : String)
deriving DecidableEq, Repr

namespace Refusal

/-- The version of the program. -/
def versionText : String := "0.1.0"

/-- The first line of what is said. -/
def message : Refusal → String
  | .unexpectedArgument text => "error: unexpected argument '" ++ text ++ "' found"
  | .unexpectedValue value option =>
    "error: unexpected value '" ++ value ++ "' for '" ++ option ++ "' found; no more were expected"
  | .missingValue option =>
    "error: a value is required for '" ++ option ++ "' but none was supplied"
  | .invalidValue value option none =>
    "error: invalid value '" ++ value ++ "' for '" ++ option ++ "'"
  | .invalidValue value option (some reason) =>
    "error: invalid value '" ++ value ++ "' for '" ++ option ++ "': " ++ reason
  | .repeated option => "error: the argument '" ++ option ++ "' cannot be used multiple times"
  | .missingArguments => "error: the following required arguments were not provided:"
  | .unknownCommand name => "error: unrecognized subcommand '" ++ name ++ "'"
  | .missingCommand above =>
    "error: '" ++ above ++ "' requires a subcommand but one was not provided"
  | .nothingGiven about | .help about => about
  | .version command => command ++ " " ++ versionText

/-- Was something else asked for, and not wrongly? -/
def isAnswer : Refusal → Bool
  | .help _ | .version _ => true
  | _ => false

end Refusal

/-! ### Reading a command line -/

/-- What was given to a command. -/
structure Given where
  /-- The options with their values. -/
  options : List (String × List Value) := []
  arguments : List String := []
deriving DecidableEq, Repr

/-- How far a command was read. -/
structure Progress where
  given : Given := {}
  /-- An option whose values are not looked at yet. -/
  pending : Option (OptionSpec × Option String) := none
  /-- Is nothing an option any more? -/
  plain : Bool := false

namespace Progress

/-- Does an option wait for its value? -/
def isAwaiting (p : Progress) : Bool :=
  match p.pending with
  | some (_, none) => true
  | _ => false

/-- Reads the values of an option. -/
def parseValues (o : OptionSpec) (kind : ValueKind) (s : String) :
    Except Refusal (List Value) :=
  (if o.many then Text.splitOn ',' s else [s]).mapM fun part =>
    match kind.parse part with
    | .ok v => .ok v
    | .error .missing => .error (.missingValue o.shown)
    | .error .notListed => .error (.invalidValue part o.shown none)
    | .error (.reason text) => .error (.invalidValue part o.shown (some text))

/-- Adds an option with its values. -/
def add (p : Progress) (o : OptionSpec) (values : Except Refusal (List Value)) :
    Except Refusal Progress := do
  if !o.many && p.given.options.any fun g => g.1 == o.name then .error (.repeated o.shown)
  else
    let values ← values
    .ok { p with given := { p.given with options := p.given.options ++ [(o.name, values)] } }

/-- Looks at the values of the last option. -/
def resolve (p : Progress) : Except Refusal Progress :=
  match p.pending with
  | none => .ok p
  | some (o, none) => .error (.missingValue o.shown)
  | some (o, some s) =>
    match o.kind with
    | none => .ok { p with pending := none }
    | some kind => add { p with pending := none } o (parseValues o kind s)

/-- Begins an option that has a value, which may be attached to it. -/
def begin (p : Progress) (o : OptionSpec) (attached : Option String) : Except Refusal Progress := do
  let p ← p.resolve
  match attached with
  | none => .ok { p with pending := some (o, none) }
  | some s => resolve { p with pending := some (o, some s) }

/-- Sets a flag. -/
def set (p : Progress) (o : OptionSpec) : Except Refusal Progress := do
  add (← p.resolve) o (.ok [])

end Progress

/-- The flags that every command has. -/
def helpFlag : OptionSpec := { name := "help", short := some 'h' }
def versionFlag : OptionSpec := { name := "version", short := some 'V' }

/-- A command with the path to it. -/
structure Context where
  path : List String
  spec : CommandSpec

namespace Context

/-- The options of a command. -/
def options (c : Context) : List OptionSpec := c.spec.options ++ [helpFlag, versionFlag]

/-- Sets a flag, or answers what it asks for. -/
def setFlag (c : Context) (p : Progress) (o : OptionSpec) : Except Refusal Progress := do
  if o = helpFlag then
    let _ ← p.resolve
    .error (.help c.spec.about)
  else if o = versionFlag then
    let _ ← p.resolve
    .error (.version ("-".intercalate c.path))
  else p.set o

/-- Reads an option in its long form. -/
def long (c : Context) (p : Progress) (body : List Char) : Except Refusal Progress :=
  let name := String.ofList (body.takeWhile fun ch => ch ≠ '=')
  let value := match body.dropWhile fun ch => ch ≠ '=' with
    | [] => none
    | _ :: rest => some (String.ofList rest)
  match c.options.find? fun o => o.name == name, value with
  | none, _ => .error (.unexpectedArgument ("--" ++ name))
  | some o, value =>
    match o.kind, value with
    | some _, _ => p.begin o value
    | none, some value => .error (.unexpectedValue value o.shown)
    | none, none => c.setFlag p o

/-- Reads options in their short form. -/
def short (c : Context) (p : Progress) : List Char → Except Refusal Progress
  | [] => .ok p
  | ch :: rest =>
    match c.options.find? fun o => o.short == some ch with
    | none => .error (.unexpectedArgument ("-" ++ String.ofList [ch]))
    | some o =>
      match o.kind with
      | some _ =>
        let value := match rest with
          | [] => none
          | '=' :: value => some (String.ofList value)
          | value => some (String.ofList value)
        p.begin o value
      | none => do c.short (← c.setFlag p o) rest

/-- The refusal of an argument that has no place. -/
def misplaced (c : Context) (p : Progress) (token : String) : Refusal :=
  if p.plain && ((c.spec.find? token).isSome || token == "help" && !c.spec.commands.isEmpty) then
    .unexpectedArgument token
  else if c.spec.commands.isEmpty then .unexpectedArgument token
  else .unknownCommand token

/-- Reads an argument. -/
def argument (c : Context) (p : Progress) (token : String) : Except Refusal Progress :=
  if p.given.arguments.length < c.spec.arguments.length then do
    let p ← p.resolve
    .ok { p with given := { p.given with arguments := p.given.arguments ++ [token] } }
  else .error (c.misplaced p token)

/-- Reads a token that is no command. -/
def token (c : Context) (p : Progress) (token : String) : Except Refusal Progress :=
  if p.plain then c.argument p token
  else if token = "--" then .ok { p with plain := true }
  else
    match token.toList with
    | '-' :: '-' :: body => c.long p body
    | '-' :: ch :: rest => c.short p (ch :: rest)
    | _ =>
      match p.pending with
      | some (o, none) => .ok { p with pending := some (o, some token) }
      | _ => c.argument p token

/-- Looks at a command when the command line ends. -/
def finish (c : Context) (p : Progress) : Except Refusal Given := do
  let p ← p.resolve
  if c.spec.commands.isEmpty then
    if p.given.arguments.length < c.spec.arguments.length then .error .missingArguments
    else .ok p.given
  else if p.given.options.isEmpty then .error (.nothingGiven c.spec.about)
  else .error (.missingCommand (" ".intercalate c.path))

/-- The command below that a token begins. -/
def below? (c : Context) (p : Progress) (token : String) : Option CommandSpec :=
  if p.plain || p.isAwaiting then none else c.spec.find? token

/-- The command that every command has which has others below. -/
def helpCommand : CommandSpec :=
  .mk "help" "Print this message or the help of the given subcommand(s)" [] [] []

/-- What help is given about: the commands below and help itself. -/
def helpTopics (spec : CommandSpec) : List CommandSpec :=
  if spec.commands.isEmpty then [] else spec.commands ++ [helpCommand]

/-- Help about the command that some names lead to. -/
def help : CommandSpec → List String → Refusal
  | spec, [] => .help spec.about
  | spec, name :: rest =>
    match (helpTopics spec).find? fun below => below.name == name with
    | none => .unknownCommand name
    | some below => help below rest

/-- Does a token ask for help about a command below? -/
def asksHelp (c : Context) (p : Progress) (token : String) : Bool :=
  token == "help" && !c.spec.commands.isEmpty && !p.plain && !p.isAwaiting

/-- Reads the rest of a command line: what was given to each command on the way down, with the names
of the commands. -/
def read (c : Context) (p : Progress) : List String → Except Refusal (List (String × Given))
  | [] => do .ok [(c.spec.name, ← c.finish p)]
  | token :: rest =>
    match c.below? p token with
    | some spec => do
      let levels ← read ⟨c.path ++ [spec.name], spec⟩ {} rest
      .ok ((c.spec.name, (← p.resolve).given) :: levels)
    | none =>
      if c.asksHelp p token then .error (help c.spec rest)
      else do c.read (← c.token p token) rest

end Context

/-- Reads a command line. -/
def CommandSpec.read (spec : CommandSpec) (args : List String) :
    Except Refusal (List (String × Given)) :=
  Context.read ⟨[spec.name], spec⟩ {} args

end TaskCluster.CommandLine
