import BookExchange.Data.Record
import BookExchange.Json.Value
import BookExchange.Market.Operation

/-! The market's values as documents: requests read from trees, answers written as JSON. -/
namespace BookExchange.Wire

open Data Text

def id : Width := .signed 64

def count : Width := .natural 32

def registration : Record User.Registration :=
  (Record.cons (.required "name" Tree.readText) <|
    .cons (.required "email" Tree.readText) <|
    .cons (.defaulted "city" Tree.readText "") <|
    .cons (.defaulted "address" Tree.readText "") .unit).map
  fun (name, email, city, address, _) => ⟨name, email, city, address⟩

def userChange : Record User.Change :=
  (Record.cons (.optional "name" Tree.readText) <|
    .cons (.optional "email" Tree.readText) <|
    .cons (.optional "city" Tree.readText) <|
    .cons (.optional "address" Tree.readText) .unit).map
  fun (name, email, city, address, _) => ⟨name, email, city, address⟩

def bookOffer : Record Book.Offer :=
  (Record.cons (.required "title" Tree.readText) <|
    .cons (.required "author" Tree.readText) <|
    .cons (.defaulted "description" Tree.readText "") <|
    .cons (.defaulted "ai_summary" (Tree.readOption Tree.readText) none) <|
    .cons (.defaulted "genre_ids" (Tree.readList (Tree.readInt id)) []) .unit).map
  fun (title, author, description, summary, genres, _) =>
    ⟨title, author, description, summary, genres⟩

def bookChange : Record Book.Change :=
  (Record.cons (.optional "description" Tree.readText) .unit).map
  fun (description, _) => ⟨description⟩

def genreName : Record String :=
  (Record.cons (.required "name" Tree.readText) .unit).map fun (name, _) => name

def exchangeRequest : Record Exchange.Request :=
  (Record.cons (.required "recipient_id" (Tree.readInt id)) <|
    .cons (.required "initiator_book_id" (Tree.readInt id)) <|
    .cons (.required "recipient_book_id" (Tree.readInt id)) .unit).map
  fun (recipient, initiatorBook, recipientBook, _) => ⟨recipient, initiatorBook, recipientBook⟩

def reviewSubmission : Record Review.Submission :=
  (Record.cons (.required "target_user_id" (Tree.readInt id)) <|
    .cons (.required "target_book_id" (Tree.readInt id)) <|
    .cons (.required "text" Tree.readText) <|
    .cons (.required "rating" (Tree.readInt (.signed 32))) .unit).map
  fun (targetUser, targetBook, text, rating, _) => ⟨targetUser, targetBook, text, rating⟩

def directoryQuery : Record Directory.Query :=
  (Record.cons (.optional "limit" (Tree.readNat count)) <|
    .cons (.optional "last_id" (Tree.readInt id)) .unit).map
  fun (limit, lastId, _) => ⟨limit, lastId⟩

def catalogueQuery : Record Catalogue.Query :=
  (Record.cons (.optional "title" Tree.readText) <|
    .cons (.optional "author" Tree.readText) <|
    .cons (.optional "status" Tree.readText) <|
    .cons (.optional "city" Tree.readText) <|
    .cons (.optional "genre_id" (Tree.readInt id)) <|
    .cons (.optional "page" (Tree.readNat count)) <|
    .cons (.optional "limit" (Tree.readNat count)) <|
    .cons (.optional "sort_by" Tree.readText) <|
    .cons (.optional "sort_order" Tree.readText) .unit).map
  fun (title, author, status, city, genre, page, limit, sortField, sortOrder, _) =>
    ⟨title, author, status, city, genre, page, limit, sortField, sortOrder⟩

def user (u : User) : Json := .object
  [("id", .int u.id), ("name", .text u.name), ("email", .text u.email), ("city", .text u.city),
   ("address", .text u.address), ("created_at", .nat u.createdAt)]

def userPage (p : Directory.Page) : Json := .object
  [("data", .list user p.data),
   ("meta", .object
      [("limit", .nat p.limit), ("next_id", .int p.nextId), ("has_next", .bool p.hasNext)])]

def profile (p : User.Profile) : Json := .object
  [("id", .int p.id), ("name", .text p.name), ("city", .text p.city), ("books_count", .nat p.books),
   ("successful_exchanges_count", .nat p.completedExchanges), ("review_count", .nat p.rating.count),
   ("average_rating", .option .double p.rating.average)]

def genre (g : Genre) : Json := .object
  [("id", .int g.id), ("name", .text g.name), ("created_at", .nat g.createdAt)]

def book (b : Book) : Json := .object
  [("id", .int b.id), ("title", .text b.title), ("author", .text b.author),
   ("description", .text b.description), ("ai_summary", .text b.summary),
   ("status", .text b.status.name), ("owner_id", .int b.owner), ("created_at", .nat b.createdAt),
   ("updated_at", .nat b.updatedAt), ("genres", .list genre b.genres)]

def bookPage (p : Catalogue.Page) : Json := .object
  [("data", .list book p.data), ("page", .nat p.page), ("limit", .nat p.limit),
   ("total", .int p.total), ("total_pages", .int p.totalPages)]

/-- The time of completion is shown once there is one. -/
def exchange (e : Exchange) : Json := .object <|
  [("id", .int e.id), ("initiator_id", .int e.initiator), ("recipient_id", .int e.recipient),
   ("initiator_book_id", .int e.initiatorBook), ("recipient_book_id", .int e.recipientBook),
   ("status", .text e.status.name)] ++
  (e.completedAt.map fun t => ("completed_at", .nat t)).toList ++
  [("created_at", .nat e.createdAt), ("updated_at", .nat e.updatedAt)]

def review (r : Review) : Json := .object
  [("id", .int r.id), ("author_id", .int r.author), ("target_user_id", .int r.targetUser),
   ("target_book_id", .int r.targetBook), ("text", .text r.text), ("rating", .int r.rating),
   ("created_at", .nat r.createdAt)]

def rating (r : Rating) : Json := .object
  [("count", .nat r.count), ("average", .option .double r.average)]

def answer : Market.Answer → Json
  | .done => .null
  | .user u => user u
  | .users p => userPage p
  | .profile p => profile p
  | .book b => book b
  | .books bs => .list book bs
  | .page p => bookPage p
  | .genre g => genre g
  | .genres gs => .list genre gs
  | .exchange e => exchange e
  | .exchanges es => .list exchange es
  | .review r => review r
  | .reviews rs => .list review rs
  | .rating r => rating r

end BookExchange.Wire
