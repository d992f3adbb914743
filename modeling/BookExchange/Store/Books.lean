import BookExchange.Store.Genres
import BookExchange.Text.Case

/-! Books in the store. A book is reserved exactly while an active exchange holds it; its status is
written by the guarded statements here only. -/
namespace BookExchange

open Text

/-- The book without its genres; its status may be unreadable. -/
def BookRow.view (b : BookRow) (id : BookId) : Except Failure Book := do
  let status ← b.status.decode Book.Status.unknown
  return ⟨id, b.title, b.author, b.description, b.summary, status, b.owner, b.createdAt,
    b.updatedAt, []⟩

/-- The row of a new book. -/
def Book.Entry.row (e : Book.Entry) (now : Time) : BookRow where
  title := e.title
  author := e.author
  titleKey := searchKey e.title
  authorKey := searchKey e.author
  description := e.description
  summary := e.summary
  status := .known .available
  owner := e.owner
  createdAt := now
  updatedAt := now
  deletedAt := none

namespace BookRow

def describe (description : String) (now : Time) (b : BookRow) : BookRow :=
  { b with description, updatedAt := now }

def remove (now : Time) (b : BookRow) : BookRow := { b with deletedAt := some now }

def reserve (now : Time) (b : BookRow) : BookRow :=
  { b with status := .known .reserved, updatedAt := now }

def release (now : Time) (b : BookRow) : BookRow :=
  { b with status := .known .available, updatedAt := now }

def transfer (owner : UserId) (now : Time) (b : BookRow) : BookRow :=
  { b with owner, updatedAt := now }

end BookRow

namespace Store

/-- The most values one query can be given. -/
def variableLimit : Nat := 32766

/-- Reads rows as books with their genres. -/
def hydrate (s : Store) (rows : List (BookId × BookRow)) : Except Failure (List Book) := do
  let books ← rows.mapM fun (id, b) => b.view id
  if variableLimit < books.length then throw (.storage .tooManyVariables)
  return books.map fun b => { b with genres := s.genresOf b.id }

def liveBook? (s : Store) (id : BookId) : Option BookRow := (s.books.get? id).filter (·.isLive)

def book? (s : Store) (id : BookId) : Except Failure (Option Book) :=
  match s.liveBook? id with
  | none => .ok none
  | some row => do return (← s.hydrate [(id, row)]).head?

/-- The status of a live book. -/
def statusOf (s : Store) (id : BookId) : Except Failure (Option Book.Status) :=
  match s.liveBook? id with
  | none => .ok none
  | some row => do return some (← row.status.decode Book.Status.unknown)

def requireStatus (s : Store) (id : BookId) : Except Failure Book.Status := do
  match ← s.statusOf id with
  | some status => return status
  | none => throw (.bookNotFound id)

/-- Newest first; of equally old books the one with the greater identifier first. -/
def newestFirst (a b : BookId × BookRow) : Bool :=
  b.2.createdAt < a.2.createdAt || (a.2.createdAt == b.2.createdAt && b.1 ≤ a.1)

def booksOf (s : Store) (owner : UserId) (status : Option Book.Status) :
    Except Failure (List Book) :=
  s.hydrate ((s.books.entries.filter fun (_, b) =>
    b.isLive && b.owner == owner && status.all (b.status == .known ·)).mergeSort newestFirst)

/-- Files a book under a genre. -/
def link (id : BookId) (genre : GenreId) : Call Genre := do
  match ← .read fun s => .ok (s.genre? genre) with
  | none => throw (.genreNotFound genre)
  | some g =>
    .write fun s =>
      if s.isLinked id genre then .error (.storage .uniqueKey)
      else .ok ((), { s with links := s.links ++ [(id, genre)] })
    return g

/-- Writes a book and the links to its genres. -/
def insertBook (e : Book.Entry) : Call Book := .transaction do
  let (id, now) ← .write fun s =>
    if (s.users.get? e.owner).isNone then .error (.storage .foreignKey)
    else .ok ((s.books.nextId, s.clock), { s with books := s.books.insert (e.row s.clock) }.tick)
  let genres ← e.genres.mapM (link id)
  return {
    id
    title := e.title
    author := e.author
    description := e.description
    summary := e.summary
    status := .available
    owner := e.owner
    createdAt := now
    updatedAt := now
    genres := genres.mergeSort Genre.before }

/-- Changes a book's row where the condition holds; answers whether it did. -/
def updateBook (id : BookId) (condition : BookRow → Bool) (f : Time → BookRow → BookRow) :
    Call Bool :=
  .update (·.books.get? id) (fun _ => condition) fun s =>
    { s with books := s.books.modify id (f s.clock) }

/-- Writes the description, then reads the book. -/
def describe (id : BookId) (description : String) : Call Book := do
  let changed ← updateBook id (·.isLive) (.describe description)
  if !changed then throw (.bookNotFound id)
  match ← .read (·.book? id) with
  | some book => return book
  | none => throw (.bookNotFound id)

def removeBook (id : BookId) : Call Unit := do
  let removed ← updateBook id (·.isFree) .remove
  if !removed then
    let _ ← .read (·.requireStatus id)
    throw .bookReserved

/-- Turns an available book into a reserved one. -/
def reserve (id : BookId) : Call Unit := do
  let reserved ← updateBook id (·.isFree) .reserve
  if !reserved then
    let _ ← .read (·.requireStatus id)
    throw (.alreadyReserved id)

/-- As `reserve`, but only while `owner` holds the book. -/
def reserveOwned (id : BookId) (owner : UserId) (notOwner : Failure) : Call Unit := do
  let reserved ← updateBook id (fun b => b.owner == owner && b.isFree) .reserve
  if !reserved then
    match ← .read fun s => .ok (s.liveBook? id) with
    | none => throw (.bookNotFound id)
    | some row => throw (if row.owner ≠ owner then notOwner else .alreadyReserved id)

/-- Makes a book available, a deleted one too. -/
def release (id : BookId) : Call Unit := do
  let released ← updateBook id (fun _ => true) .release
  if !released then throw (.bookNotFound id)

/-- Hands a book, a deleted one too, to a user whose row exists. -/
def transfer (id : BookId) (owner : UserId) : Call Unit := do
  let transferred ← .write fun s =>
    match s.books.get? id with
    | none => .ok (false, s)
    | some _ =>
      if (s.users.get? owner).isNone then .error (.storage .foreignKey)
      else .ok (true, { s with books := s.books.modify id (.transfer owner s.clock) }.tick)
  if !transferred then throw (.bookNotFound id)

end Store

end BookExchange
