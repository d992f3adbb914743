import BookExchange.CommandLine

/-! The program at the command line: it does what `CommandLine.run` says, with real files. -/
namespace BookExchange.CommandLine

def usage : String :=
  "Book-exchange marketplace server\n\n" ++
  "Usage: book-exchange [OPTIONS]\n\n" ++
  "Options:\n" ++
  "  -c, --config <CONFIG>              [default: config.toml]\n" ++
  "  -d, --database-url <DATABASE_URL>\n" ++
  "  -p, --port <PORT>\n" ++
  "      --init-config                  Write a default configuration file and exit\n" ++
  "  -h, --help                         Print help"

/-- The directory of a path. -/
def directoryOf (path : String) : String :=
  match path.toList.reverse.dropWhile (· ≠ '/') with
  | [] => "."
  | cs => String.ofList cs.reverse

def isDirectory (path : String) : IO Bool := do
  try
    let _ ← IO.FS.realPath (path ++ "/.")
    return true
  catch _ => return false

def entryAt (path : String) : IO Entry := do
  try
    return .file (← IO.FS.readFile path)
  catch _ =>
    if ← isDirectory path then return .directory
    else if ← isDirectory (directoryOf path) then return .vacant
    else return .missingDirectory

/-- Serving requests is up to a listener that calls `Http.Service.handle`. -/
def finish : Outcome → IO UInt32
  | .help => do
    IO.println usage
    return 0
  | .misused => do
    IO.eprintln usage
    return 2
  | .writes path text message => do
    IO.FS.writeFile path text
    IO.println message
    return 0
  | .fails message => do
    IO.eprintln message
    return 1
  | .serves s _ => do
    IO.println s!"Ready to listen on {s.address}"
    return 0

end BookExchange.CommandLine

def main (arguments : List String) : IO UInt32 := do
  BookExchange.CommandLine.finish
    (← BookExchange.CommandLine.run ⟨fun name => IO.getEnv name, BookExchange.CommandLine.entryAt⟩
      arguments)
