import BookExchange.Http.Media
import BookExchange.Http.Route
import BookExchange.Text.Form
import BookExchange.Text.Quoted
import BookExchange.Token.Verifier
import BookExchange.Wire

/-! Operations read from requests: the token first, then the path, then the query or the body. -/
namespace BookExchange.Http

open Data Text

/-- The identifier in a path. -/
def pathId (segment : String) : Except Failure Int :=
  match decodeUtf8? (percentDecode [] (encodeUtf8 segment)) with
  | none => .error (.malformedRequest "Invalid URL: Invalid UTF-8 in \x60id\x60")
  | some text => match readDecimal (.signed 64) text with
    | .ok id => .ok id
    | .error _ =>
      .error (.malformedRequest
        ("Invalid URL: Cannot parse \x60" ++ quoted text ++ "\x60 to a \x60i64\x60"))

/-- The greatest size of a body in bytes. -/
def bodyLimit : Nat := 2 * 1024 * 1024

def readBody (r : Record α) (q : Request) : Except Failure α :=
  if !q.contentType.any Media.isJson then
    .error (.malformedRequest "Expected request with \x60Content-Type: application/json\x60")
  else if bodyLimit < q.body.length then
    .error (.malformedRequest "Failed to buffer the request body: length limit exceeded")
  else match r.read (Json.readFirst q.body) with
    | .ok a => .ok a
    | .error .malformed => .error (.malformedRequest "Failed to parse the request body as JSON")
    | .error .unfit =>
      .error (.malformedRequest "Failed to deserialize the JSON body into the target type")

/-- A parameter of a query: a text, or an integer of some width. -/
inductive Parameter where
  | text
  | int (w : Width)

/-- Known parameters may come once, integers must be such; others are passed over. -/
def checkPairs (known : List (String × Parameter)) (seen : List String) :
    List (String × String) → Except String Unit
  | [] => .ok ()
  | (name, value) :: rest =>
    match known.lookup name with
    | none => checkPairs known seen rest
    | some p =>
      if name ∈ seen then .error ("duplicate field \x60" ++ name ++ "\x60")
      else match p with
        | .text => checkPairs known (name :: seen) rest
        | .int w => match readDecimal w value with
          | .ok _ => checkPairs known (name :: seen) rest
          | .error fault => .error fault.message

/-- The parameters of a query that has only good ones. -/
structure Query where
  pairs : List (String × String)

namespace Query

def read (known : List (String × Parameter)) (q : Request) : Except Failure Query :=
  match checkPairs known [] (formPairs q.query) with
  | .ok () => .ok ⟨formPairs q.query⟩
  | .error fault => .error (.malformedRequest ("Failed to deserialize query string: " ++ fault))

def text? (q : Query) (name : String) : Option String := q.pairs.lookup name

def int? (q : Query) (w : Width) (name : String) : Option Int :=
  (q.text? name).bind fun value => (readDecimal w value).toOption

end Query

def directoryQuery (q : Request) : Except Failure Directory.Query := do
  let p ← Query.read [("limit", .int Wire.count), ("last_id", .int Wire.id)] q
  return ⟨(p.int? Wire.count "limit").map Int.toNat, p.int? Wire.id "last_id"⟩

def catalogueQuery (q : Request) : Except Failure Catalogue.Query := do
  let p ← Query.read [("title", .text), ("author", .text), ("status", .text), ("city", .text),
    ("genre_id", .int Wire.id), ("page", .int Wire.count), ("limit", .int Wire.count),
    ("sort_by", .text), ("sort_order", .text)] q
  return {
    title := p.text? "title"
    author := p.text? "author"
    status := p.text? "status"
    city := p.text? "city"
    genre := p.int? Wire.id "genre_id"
    page := (p.int? Wire.count "page").map Int.toNat
    limit := (p.int? Wire.count "limit").map Int.toNat
    sortField := p.text? "sort_by"
    sortOrder := p.text? "sort_order" }

/-- The status that a query filters by, written exactly but for white space around it. -/
def statusFilter (ofName? : String → Option α) (q : Request) : Except Failure (Option α) := do
  let p ← Query.read [("status", .text)] q
  match (p.text? "status").bind nonBlank? with
  | none => return none
  | some name => match ofName? name with
    | some status => return some status
    | none => throw (.unknownStatus name)

def cityFilter (q : Request) : Except Failure (Option String) := do
  return (← Query.read [("city", .text)] q).text? "city"

/-- The user whose token comes with a request. -/
def actor (v : Token.Verifier) (q : Request) : Except Failure UserId :=
  v.authenticate (q.authorization.filter readableHeader)

/-- The operation that a request to an endpoint asks for. -/
def Endpoint.operation (v : Token.Verifier) (q : Request) (segment : String) :
    Endpoint → Except Failure Market.Operation
  | .createUser => do return .createUser (← readBody Wire.registration q)
  | .listUsers => do return .listUsers (← directoryQuery q)
  | .getUser => do return .getUser (← pathId segment)
  | .updateUser => do
    let user ← actor v q
    let id ← pathId segment
    return .updateUser id user (← readBody Wire.userChange q)
  | .deleteUser => do
    let user ← actor v q
    return .deleteUser (← pathId segment) user
  | .userProfile => do return .profile (← pathId segment)
  | .userBooks => do
    let id ← pathId segment
    return .booksOf id (← statusFilter Book.Status.ofName? q)
  | .userExchanges => do
    let id ← pathId segment
    return .exchangesOf id (← statusFilter Exchange.Status.ofName? q)
  | .userReviews => do return .reviewsOfUser (← pathId segment)
  | .createBook => do
    let user ← actor v q
    return .createBook user (← readBody Wire.bookOffer q)
  | .searchBooks => do return .searchBooks (← catalogueQuery q)
  | .availableBooks => do return .availableBooks (← cityFilter q)
  | .getBook => do return .getBook (← pathId segment)
  | .updateBook => do
    let user ← actor v q
    let id ← pathId segment
    return .updateBook id user (← readBody Wire.bookChange q)
  | .deleteBook => do
    let user ← actor v q
    return .deleteBook (← pathId segment) user
  | .bookReviews => do return .reviewsOfBook (← pathId segment)
  | .createExchange => do
    let user ← actor v q
    return .createExchange user (← readBody Wire.exchangeRequest q)
  | .listExchanges => return .listExchanges
  | .getExchange => do return .getExchange (← pathId segment)
  | .acceptExchange => do
    let user ← actor v q
    return .acceptExchange (← pathId segment) user
  | .completeExchange => do
    let user ← actor v q
    return .completeExchange (← pathId segment) user
  | .cancelExchange => do
    let user ← actor v q
    return .cancelExchange (← pathId segment) user
  | .createGenre => do
    let _ ← actor v q
    return .createGenre (← readBody Wire.genreName q)
  | .listGenres => return .listGenres
  | .getGenre => do return .getGenre (← pathId segment)
  | .deleteGenre => do
    let _ ← actor v q
    return .deleteGenre (← pathId segment)
  | .createReview => do
    let user ← actor v q
    return .createReview user (← readBody Wire.reviewSubmission q)
  | .deleteReview => do
    let user ← actor v q
    return .deleteReview (← pathId segment) user

end BookExchange.Http
