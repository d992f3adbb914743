import BookExchange.Store.Basic
import BookExchange.Text.Form

/-! Where a store is kept, as its address tells, and whether it can be opened there. -/
namespace BookExchange

open Text

/-- What stands at a path. -/
inductive Entry where
  | file (content : String)
  | directory
  | vacant
  | missingDirectory
  | notDirectory

/-- Why no file can be written here. -/
def Entry.writeFault? : Entry → Option String
  | .file _ | .vacant => none
  | .directory => some "Is a directory (os error 21)"
  | .missingDirectory => some "No such file or directory (os error 2)"
  | .notDirectory => some "Not a directory (os error 20)"

/-- A store is kept in memory when it has no path. -/
structure Location where
  path : Option String
  readOnly : Bool
  frozen : Bool
  fileSystem : Option String

namespace Location

/-- The text without its scheme, which may be repeated. -/
def dropScheme (scheme : List Char) : Nat → List Char → List Char
  | 0, cs => cs
  | n + 1, cs => if scheme.isPrefixOf cs then dropScheme scheme n (cs.drop scheme.length) else cs

def withoutScheme (address : String) : List Char :=
  let cs := address.toList
  dropScheme "sqlite:".toList cs.length (dropScheme "sqlite://".toList cs.length cs)

/-- Applies the parameters of an address in turn. -/
def applyParameters (l : Location) : List (String × String) → Option Location
  | [] => some l
  | ("mode", "ro") :: rest => { l with readOnly := true }.applyParameters rest
  | ("mode", "rw") :: rest | ("mode", "rwc") :: rest => l.applyParameters rest
  | ("mode", "memory") :: rest => { l with path := none }.applyParameters rest
  | ("cache", "private") :: rest | ("cache", "shared") :: rest => l.applyParameters rest
  | ("immutable", "true") :: rest | ("immutable", "1") :: rest =>
    { l with frozen := true }.applyParameters rest
  | ("immutable", "false") :: rest | ("immutable", "0") :: rest =>
    { l with frozen := false }.applyParameters rest
  | ("vfs", name) :: rest => { l with fileSystem := some name }.applyParameters rest
  | _ => none

/-- The path is percent-encoded, so that it may hold question marks. -/
def ofAddress? (address : String) : Option Location := do
  let cs := withoutScheme address
  let base := String.ofList (cs.takeWhile (· ≠ '?'))
  let parameters := String.ofList ((cs.dropWhile (· ≠ '?')).drop 1)
  let path ←
    if base = ":memory:" then some none
    else some <$> decodeUtf8? (percentDecode [] (encodeUtf8 base))
  applyParameters ⟨path, false, false, none⟩ (formPairs parameters)

def fileSystems : List String := ["unix", "unix-dotfile", "unix-excl", "unix-none", "memdb"]

/-- A store can be opened if its tables can be created in it, given what stands at its path: in
memory, in a new file, or in an empty one. The empty path means a file that nobody else sees. -/
def canOpen (l : Location) (found : Entry) : Bool :=
  l.fileSystem.all (· ∈ fileSystems) && !l.readOnly &&
  match l.path with
  | none => true
  | some path => !l.frozen &&
    (path = "" || match found with
      | .vacant => true
      | .file content => content = ""
      | _ => false)

end Location

/-- Opens the store at an address; `entry` tells what stands at a path. -/
def Store.openAt {m : Type → Type} [Monad m] (entry : String → m Entry) (address : String) :
    m (Except Failure Store) := do
  match Location.ofAddress? address with
  | none => return .error (.storage .badUrl)
  | some l =>
    let found ← entry (l.path.getD "")
    return if l.canOpen found then .ok .fresh else .error (.storage .cannotOpen)

end BookExchange
