import BookExchange.Http.Message

/-! The paths of the service and what is found there. -/
namespace BookExchange.Http

inductive Endpoint where
  | createUser
  | listUsers
  | getUser
  | updateUser
  | deleteUser
  | userProfile
  | userBooks
  | userExchanges
  | userReviews
  | createBook
  | searchBooks
  | availableBooks
  | getBook
  | updateBook
  | deleteBook
  | bookReviews
  | createExchange
  | listExchanges
  | getExchange
  | acceptExchange
  | completeExchange
  | cancelExchange
  | createGenre
  | listGenres
  | getGenre
  | deleteGenre
  | createReview
  | deleteReview
deriving DecidableEq, Repr

inductive Target where
  | health
  | endpoint (e : Endpoint)
deriving DecidableEq, Repr

/-- What a path offers to each method, and the identifier that it names. -/
structure Resource where
  methods : List (String × Target)
  id : String

def Resource.of (id : String) (methods : List (String × Endpoint)) : Resource :=
  ⟨methods.map fun (m, e) => (m, .endpoint e), id⟩

/-- The parts between the slashes; a path begins with one. -/
def segments? (path : String) : Option (List String) :=
  match path.toList.splitOn '/' with
  | [] :: rest => some (rest.map String.ofList)
  | _ => none

/-- An identifier that ends a path must not be empty. -/
def find? : List String → Option Resource
  | ["health"] => some ⟨[("GET", .health)], ""⟩
  | ["users"] => some (.of "" [("POST", .createUser), ("GET", .listUsers)])
  | ["users", ""] | ["books", ""] | ["exchanges", ""] | ["genres", ""] | ["reviews", ""] => none
  | ["users", id] =>
    some (.of id [("GET", .getUser), ("PATCH", .updateUser), ("DELETE", .deleteUser)])
  | ["users", id, "profile"] => some (.of id [("GET", .userProfile)])
  | ["users", id, "books"] => some (.of id [("GET", .userBooks)])
  | ["users", id, "exchanges"] => some (.of id [("GET", .userExchanges)])
  | ["users", id, "reviews"] => some (.of id [("GET", .userReviews)])
  | ["books"] => some (.of "" [("POST", .createBook), ("GET", .searchBooks)])
  | ["books", "available"] => some (.of "" [("GET", .availableBooks)])
  | ["books", id] =>
    some (.of id [("GET", .getBook), ("PATCH", .updateBook), ("DELETE", .deleteBook)])
  | ["books", id, "reviews"] => some (.of id [("GET", .bookReviews)])
  | ["exchanges"] => some (.of "" [("POST", .createExchange), ("GET", .listExchanges)])
  | ["exchanges", id] => some (.of id [("GET", .getExchange)])
  | ["exchanges", id, "accept"] => some (.of id [("PUT", .acceptExchange)])
  | ["exchanges", id, "complete"] => some (.of id [("PUT", .completeExchange)])
  | ["exchanges", id, "cancel"] => some (.of id [("PUT", .cancelExchange)])
  | ["genres"] => some (.of "" [("POST", .createGenre), ("GET", .listGenres)])
  | ["genres", id] => some (.of id [("GET", .getGenre), ("DELETE", .deleteGenre)])
  | ["reviews"] => some (.of "" [("POST", .createReview)])
  | ["reviews", id] => some (.of id [("DELETE", .deleteReview)])
  | _ => none

/-- HEAD is served where GET is. -/
def Resource.target? (r : Resource) (method : String) : Option Target :=
  r.methods.lookup (if method = "HEAD" then "GET" else method)

end BookExchange.Http
