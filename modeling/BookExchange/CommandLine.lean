import BookExchange.Settings
import BookExchange.Store.Location

/-! The command line of the server: its options, and what the program does before it serves. -/
namespace BookExchange.CommandLine

open Text

structure Options where
  config : Option String := none
  databaseUrl : Option String := none
  port : Option Nat := none
  initConfig : Bool := false
deriving DecidableEq, Repr

/-- Options that take a value. -/
inductive Setting where
  | config
  | databaseUrl
  | port
deriving DecidableEq, Repr

/-- How the arguments are to be taken. -/
inductive Request where
  | help
  | misused
  | options (o : Options)
deriving DecidableEq, Repr

def Setting.ofLong? : String → Option Setting
  | "config" => some .config
  | "database-url" => some .databaseUrl
  | "port" => some .port
  | _ => none

def Setting.ofShort? : Char → Option Setting
  | 'c' => some .config
  | 'd' => some .databaseUrl
  | 'p' => some .port
  | _ => none

/-- A port is written as an integer of 64 bits, with or without sign. -/
def port? (value : String) : Option Nat :=
  match readDecimal (.signed 64) value with
  | .ok n => if (Width.natural 16).holds n then some n.toNat else none
  | .error _ => none

/-- Gives an option its value, which it may get once. -/
def Options.set (o : Options) (value : String) : Setting → Option Options
  | .config => if o.config.isNone then some { o with config := some value } else none
  | .databaseUrl =>
    if o.databaseUrl.isNone then some { o with databaseUrl := some value } else none
  | .port => if o.port.isNone then (port? value).map fun n => { o with port := some n } else none

/-- The value of an option in the next argument, which must not look like an option. -/
def isValue (argument : String) : Bool := argument = "-" || !argument.startsWith "-"

/-- What an argument asks for. -/
inductive Argument where
  | help
  | initConfig
  | awaits (s : Setting)
  | sets (s : Setting) (value : String)
  | ends
  | misused

/-- A long option, with what stands behind its first equals sign. -/
def longOption (name : String) (value : Option String) : Argument :=
  match name, value with
  | "help", none => .help
  | "init-config", none => .initConfig
  | name, value => match Setting.ofLong? name, value with
    | some s, none => .awaits s
    | some s, some value => .sets s value
    | none, _ => .misused

/-- A short option; an equals sign before its value is left out. -/
def shortOption (letter : Char) : List Char → Argument
  | rest =>
    if letter = 'h' then .help
    else match Setting.ofShort? letter, rest with
      | none, _ => .misused
      | some s, [] => .awaits s
      | some s, '=' :: value => .sets s (String.ofList value)
      | some s, value => .sets s (String.ofList value)

def Argument.of (argument : String) : Argument :=
  match argument.toList with
  | ['-', '-'] => .ends
  | '-' :: '-' :: cs =>
    longOption (String.ofList (cs.takeWhile (· ≠ '=')))
      (if '=' ∈ cs then some (String.ofList ((cs.dropWhile (· ≠ '=')).drop 1)) else none)
  | '-' :: c :: rest => shortOption c rest
  | _ => .misused

/-- Reads the arguments in turn; the first that is wrong or asks for help decides. -/
def Request.read (o : Options) : List String → Request
  | [] => .options o
  | argument :: rest =>
    match Argument.of argument with
    | .help => .help
    | .misused => .misused
    | .ends => if rest.isEmpty then .options o else .misused
    | .initConfig =>
      if o.initConfig then .misused else Request.read { o with initConfig := true } rest
    | .sets s value => match o.set value s with
      | some o => Request.read o rest
      | none => .misused
    | .awaits s => match rest with
      | value :: rest =>
        if isValue value then
          match o.set value s with
          | some o => Request.read o rest
          | none => .misused
        else .misused
      | [] => .misused

def Request.ofArguments (arguments : List String) : Request := .read {} arguments

/-- What the program finds around it: environment variables, and what stands at a path. -/
structure Surroundings (m : Type → Type) where
  lookup : String → m (Option String)
  entry : String → m Entry

/-- How the program goes on: it stops with help, as misused, with a file to be written and a
message, or with the message of a failure; or it serves. -/
inductive Outcome where
  | help
  | misused
  | writes (path text message : String)
  | fails (message : String)
  | serves (s : Settings) (store : Store)

def Outcome.ofFailure (f : Failure) : Outcome := .fails ("Error: " ++ f.message)

/-- The settings in a file, or the default ones when there is none. -/
def configured : Entry → Except Failure Settings
  | .file text => Settings.ofText text
  | .directory => .error (.config "Failed to read config file")
  | _ => .ok {}

/-- The command line has the last say. -/
def Options.apply (o : Options) (s : Settings) : Settings :=
  { s with
    server := { s.server with port := o.port.getD s.server.port }
    database := { s.database with url := o.databaseUrl.getD s.database.url } }

/-- The settings the server runs with. -/
def Options.settings (o : Options) (file : Entry) (environment : String → Option String) :
    Except Failure Settings := do
  let s := o.apply ((← configured file).override environment)
  s.validate
  return s

/-- Writes the default settings where a file can be written. -/
def writeDefault (path : String) (found : Entry) : Outcome :=
  match found.writeFault? with
  | none => .writes path ({} : Settings).write s!"Wrote default configuration to {path}"
  | some fault => .ofFailure (.config s!"Failed to write default config file: {fault}")

variable {m : Type → Type} [Monad m]

/-- The variables that override settings, as they are set. -/
def Surroundings.environment (w : Surroundings m) : m (String → Option String) := do
  let values ← Settings.environmentNames.mapM fun name => do return (name, ← w.lookup name)
  return fun name => (values.lookup name).join

/-- Opens the store that the settings name. -/
def start (w : Surroundings m) (s : Settings) : m Outcome := do
  let store ← Store.openAt w.entry s.database.url
  match store with
  | .ok store => return .serves s store
  | .error _ => return .fails ("Error: failed to open database " ++ s.database.url)

def run (w : Surroundings m) (arguments : List String) : m Outcome := do
  match Request.ofArguments arguments with
  | .help => return .help
  | .misused => return .misused
  | .options o =>
    let path := o.config.getD "config.toml"
    let found ← w.entry path
    if o.initConfig then return writeDefault path found
    else match o.settings found (← w.environment) with
      | .ok s => start w s
      | .error f => return .ofFailure f

end BookExchange.CommandLine
