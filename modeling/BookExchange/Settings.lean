import BookExchange.Data.Record
import BookExchange.Failure
import BookExchange.Text.Blank
import BookExchange.Toml.Document

/-! The settings of a server: their defaults, the file that may hold them, the environment
variables that override them, and the rules they must keep. -/
namespace BookExchange

open Data Text

namespace Settings

structure Server where
  host : String := "127.0.0.1"
  port : Nat := 8080
deriving DecidableEq, Repr

structure Database where
  url : String := "sqlite://bookswap.db"
  maxConnections : Option Nat := some 10
  busyTimeout : Option Nat := some 5
deriving DecidableEq, Repr

structure Auth where
  jwtSecret : Option String := none
deriving DecidableEq, Repr

structure Summary where
  endpoint : String := "https://api.grok.ai/v1/completions"
  apiKey : Option String := none
  timeout : Nat := 5
  maxChars : Nat := 240
deriving DecidableEq, Repr

structure Logging where
  level : String := "info"
  format : Option String := some "plain"
deriving DecidableEq, Repr

end Settings

/-- Times are in seconds. -/
structure Settings where
  server : Settings.Server := {}
  database : Settings.Database := {}
  auth : Settings.Auth := {}
  summary : Settings.Summary := {}
  logging : Settings.Logging := {}
deriving DecidableEq, Repr

namespace Settings

/-- A section may also be a list of its values; those behind the last are passed over. -/
def readSection (r : Record α) : Reader α
  | .list items whole => r.read (.list (items.take r.names.length) whole)
  | t => r.read t

def serverRecord : Record Server :=
  (Record.cons (.defaulted "host" Tree.readText ({} : Server).host) <|
    .cons (.defaulted "port" (Tree.readNat (.natural 16)) ({} : Server).port) .unit).map
  fun (host, port, _) => ⟨host, port⟩

def databaseRecord : Record Database :=
  (Record.cons (.defaulted "url" Tree.readText ({} : Database).url) <|
    .cons (.defaulted "max_connections" (Tree.readOption (Tree.readNat (.natural 32)))
      ({} : Database).maxConnections) <|
    .cons (.defaulted "busy_timeout_seconds" (Tree.readOption (Tree.readNat (.natural 64)))
      ({} : Database).busyTimeout) .unit).map
  fun (url, maxConnections, busyTimeout, _) => ⟨url, maxConnections, busyTimeout⟩

def authRecord : Record Auth :=
  (Record.cons (.defaulted "jwt_secret" (Tree.readOption Tree.readText) ({} : Auth).jwtSecret)
    .unit).map
  fun (jwtSecret, _) => ⟨jwtSecret⟩

def summaryRecord : Record Summary :=
  (Record.cons (.defaulted "endpoint" Tree.readText ({} : Summary).endpoint) <|
    .cons (.defaulted "api_key" (Tree.readOption Tree.readText) ({} : Summary).apiKey) <|
    .cons (.defaulted "timeout_seconds" (Tree.readNat (.natural 64)) ({} : Summary).timeout) <|
    .cons (.defaulted "max_chars" (Tree.readNat (.natural 64)) ({} : Summary).maxChars) .unit).map
  fun (endpoint, apiKey, timeout, maxChars, _) => ⟨endpoint, apiKey, timeout, maxChars⟩

def loggingRecord : Record Logging :=
  (Record.cons (.defaulted "level" Tree.readText ({} : Logging).level) <|
    .cons (.defaulted "format" (Tree.readOption Tree.readText) ({} : Logging).format) .unit).map
  fun (level, format, _) => ⟨level, format⟩

def record : Record Settings :=
  (Record.cons (.defaulted "server" (readSection serverRecord) {}) <|
    .cons (.defaulted "database" (readSection databaseRecord) {}) <|
    .cons (.defaulted "auth" (readSection authRecord) {}) <|
    .cons (.defaulted "summary" (readSection summaryRecord) {}) <|
    .cons (.defaulted "logging" (readSection loggingRecord) {}) .unit).map
  fun (server, database, auth, summary, logging, _) => ⟨server, database, auth, summary, logging⟩

/-- The settings in the text of a file. -/
def ofText (text : String) : Except Failure Settings :=
  match (Toml.read? text).map record.read with
  | some (.ok s) => .ok s
  | _ => .error (.config "Failed to parse config file")

/-- The environment variables that override settings. -/
def environmentNames : List String :=
  ["DATABASE_URL", "BOOKSWAP_JWT_SECRET", "SUMMARY_API_KEY", "RUST_LOG"]

/-- The settings after the environment's say. -/
def override (environment : String → Option String) (s : Settings) : Settings :=
  { s with
    database := { s.database with url := (environment "DATABASE_URL").getD s.database.url }
    auth := ⟨(environment "BOOKSWAP_JWT_SECRET").or s.auth.jwtSecret⟩
    summary := { s.summary with apiKey := (environment "SUMMARY_API_KEY").or s.summary.apiKey }
    logging := { s.logging with level := (environment "RUST_LOG").getD s.logging.level } }

def validate (s : Settings) : Except Failure Unit :=
  if s.server.port = 0 then .error (.config "Server port cannot be 0")
  else if s.database.url = "" then .error (.config "Database URL cannot be empty")
  else if s.database.maxConnections = some 0 then
    .error (.config "Database pool needs at least one connection")
  else if s.database.busyTimeout = some 0 then .error (.config "Database busy timeout cannot be 0")
  else if s.summary.timeout = 0 then .error (.config "Summary timeout cannot be 0")
  else if (s.auth.jwtSecret.bind nonBlank?).isNone then .error (.config "JWT secret must be set")
  else .ok ()

/-- Where the server listens. -/
def address (s : Settings) : String := s!"{s.server.host}:{s.server.port}"

/-- How long a writer waits for the write lock. -/
def busySeconds (s : Settings) : Nat := s.database.busyTimeout.getD 5

def hasSummaryService (s : Settings) : Bool := s.summary.apiKey.isSome

def logsJson (s : Settings) : Bool := s.logging.format = some "json"

/-! ## As a file -/

/-- A character in a string of a file. -/
def writeChar (c : Char) : String :=
  if c = '"' ∨ c = '\\' then String.ofList ['\\', c]
  else if Toml.isPlain c then c.toString
  else "\\U" ++ hexDigits 8 c.toNat

def writeText (s : String) : String := "\"" ++ String.join (s.toList.map writeChar) ++ "\""

/-- A section of a file: a header, and a line for each setting that has a value. -/
def writeSection (name : String) (settings : List (String × Option String)) : String :=
  "[" ++ name ++ "]\n" ++ String.join (settings.map fun (name, value) =>
    match value with
    | some value => name ++ " = " ++ value ++ "\n"
    | none => "")

/-- The text of a file that holds the settings. -/
def write (s : Settings) : String :=
  "\n".intercalate
    [writeSection "server"
      [("host", some (writeText s.server.host)), ("port", some (toString s.server.port))],
     writeSection "database"
      [("url", some (writeText s.database.url)),
       ("max_connections", s.database.maxConnections.map toString),
       ("busy_timeout_seconds", s.database.busyTimeout.map toString)],
     writeSection "auth" [("jwt_secret", s.auth.jwtSecret.map writeText)],
     writeSection "summary"
      [("endpoint", some (writeText s.summary.endpoint)),
       ("api_key", s.summary.apiKey.map writeText),
       ("timeout_seconds", some (toString s.summary.timeout)),
       ("max_chars", some (toString s.summary.maxChars))],
     writeSection "logging"
      [("level", some (writeText s.logging.level)), ("format", s.logging.format.map writeText)]]

end Settings

end BookExchange
