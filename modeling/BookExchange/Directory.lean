import BookExchange.User

/-! Listing the users page by page, in the order of their identifiers. -/
namespace BookExchange.Directory

structure Query where
  limit : Option Nat := none
  lastId : Option UserId := none
deriving DecidableEq, Repr

def defaultLimit : Nat := 50
def greatestLimit : Nat := 1000

/-- The identifier to go on after, and the size of the page. A limit out of bounds counts as none. -/
def Query.normalize (q : Query) : UserId × Nat :=
  (max (q.lastId.getD 0) 0,
    (q.limit.filter fun n => 1 ≤ n && n ≤ greatestLimit).getD defaultLimit)

structure Page where
  data : List User
  limit : Nat
  nextId : UserId
  hasNext : Bool
deriving DecidableEq, Repr

/-- A full page may have a successor, which begins after the last user shown. -/
def Page.of (data : List User) (limit : Nat) : Page :=
  ⟨data, limit, (data.getLast?.map (·.id)).getD 0, data.length == limit⟩

end BookExchange.Directory
