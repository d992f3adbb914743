import BookExchange.Book
import BookExchange.Text.Case

/-! Searching the catalogue: the filters as a caller writes them, the search they stand for, and a
page of its result. -/
namespace BookExchange.Catalogue

open Text

inductive SortField where
  | createdAt
  | title
deriving DecidableEq, Repr, Inhabited

inductive SortOrder where
  | ascending
  | descending
deriving DecidableEq, Repr, Inhabited

/-- Unknown names mean the time of creation. -/
def SortField.ofName (s : String) : SortField :=
  if searchKey s = "title" then .title else .createdAt

/-- Unknown names mean the descending order. -/
def SortOrder.ofName (s : String) : SortOrder :=
  if searchKey s = "asc" then .ascending else .descending

/-- The filters as a caller writes them. -/
structure Query where
  title : Option String := none
  author : Option String := none
  status : Option String := none
  city : Option String := none
  genre : Option GenreId := none
  page : Option Nat := none
  limit : Option Nat := none
  sortField : Option String := none
  sortOrder : Option String := none
deriving DecidableEq, Repr

/-- Text filters hold search keys; page and limit are at least one. -/
structure Search where
  title : Option String
  author : Option String
  status : Option Book.Status
  city : Option String
  genre : Option GenreId
  page : Nat
  limit : Nat
  sortField : SortField
  sortOrder : SortOrder
deriving DecidableEq, Repr

def defaultPage : Nat := 1
def defaultLimit : Nat := 10
def greatestLimit : Nat := 100

/-- The search key of a text, unless it is empty. -/
def key? (s : String) : Option String :=
  if searchKey s = "" then none else some (searchKey s)

def Query.normalize (q : Query) : Except Failure Search := do
  let status ← match q.status.bind key? with
    | none => pure none
    | some name => match Book.Status.ofName? name with
      | some status => pure (some status)
      | none => throw (.unknownStatus name)
  return {
    title := q.title.bind key?
    author := q.author.bind key?
    status
    city := q.city.bind key?
    genre := q.genre
    page := (q.page.filter (0 < ·)).getD defaultPage
    limit := min ((q.limit.filter (0 < ·)).getD defaultLimit) greatestLimit
    sortField := (q.sortField.map .ofName).getD .createdAt
    sortOrder := (q.sortOrder.map .ofName).getD .descending }

/-- How many results stand before the page. -/
def Search.offset (s : Search) : Nat := (s.page - 1) * s.limit

structure Page where
  data : List Book
  page : Nat
  limit : Nat
  total : Int
  totalPages : Int
deriving DecidableEq, Repr

/-- A page that is not full counts as a page. -/
def Page.of (data : List Book) (s : Search) (total : Int) : Page :=
  ⟨data, s.page, s.limit, total, (total + s.limit - 1).tdiv s.limit⟩

end BookExchange.Catalogue
