import BookExchange.Genre

/-! Books: what an owner offers, and what others see of it. -/
namespace BookExchange

open Text

inductive Book.Status where
  | available
  | reserved
deriving DecidableEq, Repr, Inhabited

namespace Book.Status

def name : Status → String
  | .available => "available"
  | .reserved => "reserved"

def ofName? (s : String) : Option Status := [available, reserved].find? (·.name == s)

def unknown (s : String) : Failure := .corrupt s!"unknown BookStatus '{s}'"

end Book.Status

structure Book where
  id : BookId
  title : String
  author : String
  description : String
  summary : String
  status : Book.Status
  owner : UserId
  createdAt : Time
  updatedAt : Time
  genres : List Genre
deriving DecidableEq, Repr, Inhabited

namespace Book

/-- A book as its owner describes it; a missing summary is written for them. -/
structure Offer where
  title : String
  author : String
  description : String
  summary : Option String
  genres : List GenreId
deriving DecidableEq, Repr

def Offer.validate (o : Offer) : Except Failure Unit := do
  if trim o.title = "" then throw (.invalidBook "title is required")
  if trim o.author = "" then throw (.invalidBook "author is required")

structure Change where
  description : Option String
deriving DecidableEq, Repr

/-- A book ready to be stored; its genres are in ascending order, each once. -/
structure Entry where
  title : String
  author : String
  description : String
  summary : String
  owner : UserId
  genres : List GenreId
deriving DecidableEq, Repr

/-- Drops repetitions from a sorted list. -/
def dedup : List Int → List Int
  | a :: b :: rest => if a = b then dedup (b :: rest) else a :: dedup (b :: rest)
  | xs => xs

def Offer.entry (o : Offer) (owner : UserId) (summary : String) : Entry where
  title := trim o.title
  author := trim o.author
  description := trim o.description
  summary
  owner
  genres := dedup (o.genres.mergeSort (· ≤ ·))

end Book

end BookExchange
