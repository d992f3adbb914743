import BookExchange.Store.Basic
import BookExchange.Text.Case

/-! Users in the store. A deleted user's row stays, and so does its hold on the email. -/
namespace BookExchange

open Text

def UserRow.view (u : UserRow) (id : UserId) : User :=
  ⟨id, u.name, u.email, u.city, u.address, u.createdAt⟩

/-- The row of a new user. -/
def User.Registration.row (r : User.Registration) (now : Time) : UserRow where
  name := trim r.name
  email := trim r.email
  city := trim r.city
  cityKey := searchKey r.city
  address := trim r.address
  createdAt := now
  deletedAt := none

namespace UserRow

def save (u : User) (row : UserRow) : UserRow :=
  { row with
    name := u.name, email := u.email, city := u.city, cityKey := searchKey u.city,
    address := u.address }

def remove (now : Time) (u : UserRow) : UserRow := { u with deletedAt := some now }

end UserRow

/-- Removed along with its owner. -/
def BookRow.withdraw (owner : UserId) (now : Time) (b : BookRow) : BookRow :=
  if b.owner = owner ∧ b.isLive then { b with deletedAt := some now } else b

namespace Store

def emailTaken (s : Store) (email : String) (exceptFor : UserId) : Bool :=
  s.users.entries.any fun (id, u) => u.email == email && id != exceptFor

def liveUser? (s : Store) (id : UserId) : Option UserRow := (s.users.get? id).filter (·.isLive)

def user? (s : Store) (id : UserId) : Option User := (s.liveUser? id).map (·.view id)

def usersAfter (s : Store) (after : UserId) (limit : Nat) : List User :=
  ((s.users.entries.filter fun (id, u) => after < id && u.isLive).take limit).map
    fun (id, u) => u.view id

def hasActiveExchange (s : Store) (user : UserId) : Bool :=
  s.exchanges.entries.any fun (_, e) => e.names user && e.isActive

def insertUser (r : User.Registration) : Call User :=
  .write fun s =>
    let row := r.row s.clock
    if s.emailTaken row.email 0 then .error .emailTaken
    else .ok (row.view s.users.nextId, { s with users := s.users.insert row }.tick)

/-- Writes every field of a live user. -/
def saveUser (u : User) : Call User := do
  let saved ← .write fun s =>
    match s.liveUser? u.id with
    | none => .ok (false, s)
    | some _ =>
      if s.emailTaken u.email u.id then .error .emailTaken
      else .ok (true, { s with users := s.users.modify u.id (.save u) }.tick)
  if saved then return u else throw (.userNotFound u.id)

/-- Deletes a user in no active exchange, and the live books that the user owns. -/
def removeUser (id : UserId) : Call Unit := .transaction do
  let removed ← .update (·.liveUser? id) (fun s _ => !s.hasActiveExchange id) fun s =>
    { s with users := s.users.modify id (.remove s.clock) }
  if !removed then
    match ← .read fun s => .ok (s.liveUser? id) with
    | some _ => throw .userHasActiveExchanges
    | none => throw (.userNotFound id)
  .write fun s => .ok ((), { s with books := s.books.map (.withdraw id s.clock) }.tick)

end Store

end BookExchange
