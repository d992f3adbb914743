import BookExchange.Catalogue
import BookExchange.Store.Books
import BookExchange.Text.Like

/-! Searching the books in the store. -/
namespace BookExchange.Store

open Text Catalogue

/-- What comes of trying a condition on a row. -/
inductive Trial where
  | holds
  | fails
  | tooLong
deriving DecidableEq, Repr

namespace Trial

def ofBool (p : Bool) : Trial := if p then .holds else .fails

/-- Conditions are tried in turn until one does not hold. -/
def all : List Trial → Except Failure Bool
  | [] => .ok true
  | .holds :: rest => all rest
  | .fails :: _ => .ok false
  | .tooLong :: _ => .error (.storage .patternTooLong)

@[simp] theorem all_ofBool (p : Bool) (rest : List Trial) :
    all (ofBool p :: rest) = if p then all rest else .ok false := by
  cases p <;> rfl

end Trial

/-- Tries whether a text contains a key, if there is one; a key whose pattern is too long cannot be
tried. -/
def tryKey (key : Option String) (text : String) : Trial :=
  match key with
  | none => .holds
  | some key => if patternFits key then .ofBool (contains key text) else .tooLong

/-- Whether the search lets a row through. A pattern that is too long fails the search at the first
row that brings it to its turn. -/
def lets (s : Store) (q : Search) (id : BookId) (b : BookRow) : Except Failure Bool :=
  Trial.all [
    .ofBool b.isLive,
    .ofBool (q.status.all (b.status == .known ·)),
    tryKey q.title b.titleKey,
    tryKey q.author b.authorKey,
    .ofBool (q.genre.all (s.isLinked id ·)),
    match s.users.get? b.owner with
    | some owner => tryKey q.city owner.cityKey
    | none => .fails]

/-- The rows of the search, in ascending order of their identifiers. -/
def matching (s : Store) (q : Search) : Except Failure (List (BookId × BookRow)) :=
  s.books.entries.filterM fun (id, b) => s.lets q id b

def precedes (field : SortField) (a b : BookId × BookRow) : Bool :=
  match field with
  | .createdAt => a.2.createdAt < b.2.createdAt || (a.2.createdAt == b.2.createdAt && a.1 ≤ b.1)
  | .title => a.2.title < b.2.title || (a.2.title == b.2.title && a.1 ≤ b.1)

/-- Titles are ordered by their UTF-8 bytes; identifiers decide between equals. -/
def sorted (q : Search) (rows : List (BookId × BookRow)) : List (BookId × BookRow) :=
  rows.mergeSort fun a b => match q.sortOrder with
    | .ascending => precedes q.sortField a b
    | .descending => precedes q.sortField b a

/-- One page of the search, and how many rows it has in all. -/
def search (s : Store) (q : Search) : Except Failure (List Book × Nat) := do
  let rows ← s.matching q
  let books ← s.hydrate (((sorted q rows).drop q.offset).take q.limit)
  return (books, rows.length)

/-- The available books, newest first, of owners whose city contains the text. -/
def availableBooks (s : Store) (city : Option String) : Except Failure (List Book) := do
  let rows ← s.matching {
    title := none, author := none, status := some .available, city := city.bind key?, genre := none,
    page := 1, limit := 1, sortField := .createdAt, sortOrder := .descending }
  s.hydrate (rows.mergeSort newestFirst)

end BookExchange.Store
