import BookExchange.Failure

/-! Exchanges of two books between two users.

A pending exchange is accepted by its recipient or cancelled by its initiator; an accepted one is
completed by either party. -/
namespace BookExchange

inductive Exchange.Status where
  | pending
  | accepted
  | completed
  | cancelled
deriving DecidableEq, Repr, Inhabited

namespace Exchange.Status

def name : Status → String
  | .pending => "pending"
  | .accepted => "accepted"
  | .completed => "completed"
  | .cancelled => "cancelled"

def ofName? (s : String) : Option Status :=
  [pending, accepted, completed, cancelled].find? (·.name == s)

def unknown (s : String) : Failure := .corrupt s!"unknown ExchangeStatus '{s}'"

/-- An active exchange holds both of its books. -/
def isActive : Status → Bool
  | .pending | .accepted => true
  | .completed | .cancelled => false

end Exchange.Status

structure Exchange where
  id : ExchangeId
  initiator : UserId
  recipient : UserId
  initiatorBook : BookId
  recipientBook : BookId
  status : Exchange.Status
  completedAt : Option Time
  createdAt : Time
  updatedAt : Time
deriving DecidableEq, Repr, Inhabited

namespace Exchange

/-- What the initiator asks for. -/
structure Request where
  recipient : UserId
  initiatorBook : BookId
  recipientBook : BookId
deriving DecidableEq, Repr

/-- An exchange about to be stored. -/
structure Proposal where
  initiator : UserId
  recipient : UserId
  initiatorBook : BookId
  recipientBook : BookId
deriving DecidableEq, Repr

def isParty (e : Exchange) (user : UserId) : Bool := user == e.initiator || user == e.recipient

def accept (e : Exchange) (actor : UserId) (now : Time) : Except Failure Exchange :=
  if e.status ≠ .pending then .error .notPending
  else if actor ≠ e.recipient then .error .forbidden
  else .ok { e with status := .accepted, updatedAt := now }

/-- A completion time that is set already stays. -/
def complete (e : Exchange) (actor : UserId) (now : Time) : Except Failure Exchange :=
  if e.status ≠ .accepted then .error .notAccepted
  else if !e.isParty actor then .error .forbidden
  else .ok { e with
    status := .completed, completedAt := some (e.completedAt.getD now), updatedAt := now }

def cancel (e : Exchange) (actor : UserId) (now : Time) : Except Failure Exchange :=
  if e.status ≠ .pending then .error .notPending
  else if actor ≠ e.initiator then .error .forbidden
  else .ok { e with status := .cancelled, completedAt := none, updatedAt := now }

end Exchange

end BookExchange
