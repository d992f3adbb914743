import BookExchange.Directory
import BookExchange.Store.Books
import BookExchange.Store.Exchanges
import BookExchange.Store.Reviews
import BookExchange.Store.Users

/-! User accounts. -/
namespace BookExchange

/-- What others see of a user. -/
structure User.Profile where
  id : UserId
  name : String
  city : String
  books : Nat
  completedExchanges : Nat
  rating : Rating
deriving DecidableEq, Repr

namespace Market

def createUser (r : User.Registration) : Call User := do
  r.validate
  Store.insertUser r

def getUser (id : UserId) : Call User := do
  match ← .read fun s => .ok (s.user? id) with
  | some user => return user
  | none => throw (.userNotFound id)

/-- Users change their own account only. -/
def updateUser (id actor : UserId) (c : User.Change) : Call User := do
  if id ≠ actor then throw .forbidden
  c.validate
  let user ← getUser id
  Store.saveUser (c.apply user)

def listUsers (q : Directory.Query) : Call Directory.Page := do
  let (after, limit) := q.normalize
  let users ← .read fun s => .ok (s.usersAfter after limit)
  return .of users limit

/-- The store looks for active exchanges once more, under its write lock. -/
def deleteUser (id actor : UserId) : Call Unit := do
  if id ≠ actor then throw .forbidden
  let _ ← getUser id
  let exchanges ← .read (·.exchangesOf id none)
  if exchanges.any (·.status.isActive) then throw .userHasActiveExchanges
  Store.removeUser id

def profile (id : UserId) : Call User.Profile := do
  let user ← getUser id
  let books ← .read (·.booksOf id none)
  let completed ← .read fun s => .ok (s.completedOf id)
  let rating ← .read fun s => .ok (s.ratingOf id)
  return ⟨user.id, user.name, user.city, books.length, completed, rating⟩

end Market

end BookExchange
