import BookExchange.Failure
import BookExchange.Json.Value

/-! Requests to the service and its responses. -/
namespace BookExchange.Http

/-- The target is the path with its query; headers are given as their text. -/
structure Request where
  method : String
  target : String
  authorization : Option String
  contentType : Option String
  body : List UInt8

namespace Request

/-- The target without a fragment. -/
def resource (r : Request) : List Char := r.target.toList.takeWhile (· ≠ '#')

def path (r : Request) : String := String.ofList (r.resource.takeWhile (· ≠ '?'))

def query (r : Request) : String := String.ofList ((r.resource.dropWhile (· ≠ '?')).drop 1)

end Request

/-- A header counts only when it is visible ASCII, spaces and tabs. -/
def readableHeader (text : String) : Bool :=
  text.toList.all fun c => c = '\t' || (0x20 ≤ c.toNat && c.toNat < 0x7F)

structure Response where
  status : Nat
  body : Option Json

namespace Response

def empty (status : Nat) : Response := ⟨status, none⟩

def json (status : Nat) (body : Json) : Response := ⟨status, some body⟩

def statusOf (f : Failure) : Nat :=
  match f with
  | .auth _ => 401
  | _ => match f.kind with
    | .notFound => 404
    | .forbidden => 403
    | .invalidState | .conflict => 409
    | .invalidInput => 400
    | .internal => 500

/-- Internal failures keep their message to themselves. -/
def ofFailure (f : Failure) : Response :=
  let (error, message) := match f with
    | .auth _ => ("unauthorized", f.message)
    | _ => (f.kind.name, if f.kind = .internal then "internal error" else f.message)
  json (statusOf f) (.object [("error", .text error), ("message", .text message)])

end Response

end BookExchange.Http
