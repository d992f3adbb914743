import BookExchange.Book
import BookExchange.Exchange
import BookExchange.Review
import BookExchange.Store.Table
import BookExchange.User

/-! The store: its tables, and what a call on it may do. A call answers or fails, and leaves a store
either way; only a transaction undoes the writes before its failure. -/
namespace BookExchange

/-- A value as it is stored: text that stands for no value can only come from outside. -/
inductive Stored (α : Type) where
  | known (value : α)
  | unknown (text : String)
deriving DecidableEq, Repr, Inhabited

def Stored.decode (fault : String → Failure) : Stored α → Except Failure α
  | .known value => .ok value
  | .unknown text => .error (fault text)

structure UserRow where
  name : String
  email : String
  city : String
  cityKey : String
  address : String
  createdAt : Time
  deletedAt : Option Time
deriving DecidableEq, Repr, Inhabited

structure BookRow where
  title : String
  author : String
  titleKey : String
  authorKey : String
  description : String
  summary : String
  status : Stored Book.Status
  owner : UserId
  createdAt : Time
  updatedAt : Time
  deletedAt : Option Time
deriving DecidableEq, Repr, Inhabited

structure GenreRow where
  name : String
  createdAt : Time
deriving DecidableEq, Repr, Inhabited

structure ExchangeRow where
  initiator : UserId
  recipient : UserId
  initiatorBook : BookId
  recipientBook : BookId
  status : Stored Exchange.Status
  completedAt : Option Time
  createdAt : Time
  updatedAt : Time
deriving DecidableEq, Repr, Inhabited

structure ReviewRow where
  author : UserId
  targetUser : UserId
  targetBook : BookId
  text : String
  rating : Int
  createdAt : Time
deriving DecidableEq, Repr, Inhabited

def UserRow.isLive (u : UserRow) : Bool := u.deletedAt.isNone

def BookRow.isLive (b : BookRow) : Bool := b.deletedAt.isNone

/-- A book can be reserved or removed. -/
def BookRow.isFree (b : BookRow) : Bool := b.status == .known .available && b.isLive

def ExchangeRow.names (e : ExchangeRow) (user : UserId) : Bool :=
  e.initiator == user || e.recipient == user

def ExchangeRow.isActive (e : ExchangeRow) : Bool :=
  match e.status with
  | .known status => status.isActive
  | .unknown _ => false

/-- Every write happens at the clock's time and moves it on. A store is locked while another
connection holds the write lock. -/
structure Store where
  users : Table UserRow
  books : Table BookRow
  genres : Table GenreRow
  links : List (BookId × GenreId)
  exchanges : Table ExchangeRow
  reviews : Table ReviewRow
  clock : Time
  locked : Bool
deriving DecidableEq, Repr, Inhabited

namespace Store

def fresh : Store := ⟨.empty, .empty, .empty, [], .empty, .empty, 0, false⟩

def tick (s : Store) : Store := { s with clock := s.clock + 1 }

end Store

abbrev Call (α : Type) := ExceptT Failure (StateM Store) α

namespace Call

variable {α : Type}

def read (f : Store → Except Failure α) : Call α := fun s => (f s, s)

/-- One write statement. It fails while the store is locked, even where it would touch no row; when
it fails it leaves no trace. -/
def write (f : Store → Except Failure (α × Store)) : Call α := fun s =>
  if s.locked then (.error .locked, s)
  else match f s with
    | .ok (a, s') => (.ok a, s')
    | .error e => (.error e, s)

/-- All or nothing. -/
def transaction (c : Call α) : Call α := fun s =>
  match c s with
  | (.ok a, s') => (.ok a, s')
  | (.error e, _) => (.error e, s)

/-- Changes a row that is there and meets the condition; answers whether it did. -/
def update (get? : Store → Option β) (condition : Store → β → Bool) (put : Store → Store) :
    Call Bool :=
  write fun s =>
    match get? s with
    | some row => if condition s row then .ok (true, (put s).tick) else .ok (false, s)
    | none => .ok (false, s)

end Call

end BookExchange
