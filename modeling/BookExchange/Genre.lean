import BookExchange.Failure
import BookExchange.Text.Blank

/-! Genres. -/
namespace BookExchange

open Text

structure Genre where
  id : GenreId
  name : String
  createdAt : Time
deriving DecidableEq, Repr, Inhabited

namespace Genre

/-- The trimmed name, which must not be empty. -/
def validName (name : String) : Except Failure String :=
  if trim name = "" then .error (.invalidGenre "name is required") else .ok (trim name)

/-- By name in the order of UTF-8 bytes, then by identifier. -/
def before (a b : Genre) : Bool := a.name < b.name || (a.name == b.name && a.id ≤ b.id)

end Genre

end BookExchange
