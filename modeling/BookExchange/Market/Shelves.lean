import BookExchange.Store.Search

/-! The books that owners offer, and the genres they are filed under. -/
namespace BookExchange.Market

/-- The summary given, or else one written from the description. -/
def summaryOf (summarize : String → String) (o : Book.Offer) : String :=
  (o.summary.bind Text.nonBlank?).getD (summarize o.description)

def createBook (summarize : String → String) (owner : UserId) (o : Book.Offer) : Call Book := do
  o.validate
  Store.insertBook (o.entry owner (summaryOf summarize o))

def getBook (id : BookId) : Call Book := do
  match ← .read (·.book? id) with
  | some book => return book
  | none => throw (.bookNotFound id)

def updateBook (id : BookId) (actor : UserId) (c : Book.Change) : Call Book := do
  let book ← getBook id
  if book.owner ≠ actor then throw .forbidden
  match c.description with
  | some description => Store.describe id description
  | none => return book

/-- The store checks again that the book is available; a reservation may have come in between. -/
def deleteBook (id : BookId) (actor : UserId) : Call Unit := do
  let book ← getBook id
  if book.owner ≠ actor then throw .forbidden
  if book.status = .reserved then throw .bookReserved
  Store.removeBook id

def searchBooks (q : Catalogue.Query) : Call Catalogue.Page := do
  let search ← q.normalize
  let (books, total) ← .read (·.search search)
  return .of books search total

def booksOf (owner : UserId) (status : Option Book.Status) : Call (List Book) :=
  .read (·.booksOf owner status)

def availableBooks (city : Option String) : Call (List Book) := .read (·.availableBooks city)

def createGenre (name : String) : Call Genre := do
  let name ← Genre.validName name
  Store.insertGenre name

def getGenre (id : GenreId) : Call Genre := do
  if id ≤ 0 then throw .invalidId
  match ← .read fun s => .ok (s.genre? id) with
  | some genre => return genre
  | none => throw (.genreNotFound id)

def listGenres : Call (List Genre) := .read fun s => .ok s.allGenres

def deleteGenre (id : GenreId) : Call Unit := do
  if id ≤ 0 then throw .invalidId
  Store.removeGenre id

end BookExchange.Market
