import BookExchange.Store.Books

/-! Exchanges in the store. Creating, completing and cancelling one is a single transaction together
with the writes to its books. -/
namespace BookExchange

def ExchangeRow.view (e : ExchangeRow) (id : ExchangeId) : Except Failure Exchange := do
  let status ← e.status.decode Exchange.Status.unknown
  return ⟨id, e.initiator, e.recipient, e.initiatorBook, e.recipientBook, status, e.completedAt,
    e.createdAt, e.updatedAt⟩

/-- The row of a new exchange. -/
def Exchange.Proposal.row (p : Exchange.Proposal) (now : Time) : ExchangeRow where
  initiator := p.initiator
  recipient := p.recipient
  initiatorBook := p.initiatorBook
  recipientBook := p.recipientBook
  status := .known .pending
  completedAt := none
  createdAt := now
  updatedAt := now

namespace ExchangeRow

def accept (now : Time) (e : ExchangeRow) : ExchangeRow :=
  { e with status := .known .accepted, updatedAt := now }

/-- A time of completion that is set already stays; the caller's comes before the present. -/
def complete (at? : Option Time) (now : Time) (e : ExchangeRow) : ExchangeRow :=
  { e with
    status := .known .completed
    completedAt := some (e.completedAt.getD (at?.getD now))
    updatedAt := now }

def cancel (now : Time) (e : ExchangeRow) : ExchangeRow :=
  { e with status := .known .cancelled, completedAt := none, updatedAt := now }

end ExchangeRow

namespace Store

def exchange? (s : Store) (id : ExchangeId) : Except Failure (Option Exchange) :=
  match s.exchanges.get? id with
  | none => .ok none
  | some row => do return some (← row.view id)

def allExchanges (s : Store) : Except Failure (List Exchange) :=
  s.exchanges.entries.mapM fun (id, e) => e.view id

def exchangesOf (s : Store) (user : UserId) (status : Option Exchange.Status) :
    Except Failure (List Exchange) :=
  ((s.exchanges.entries.filter fun (_, e) =>
    e.names user && status.all (e.status == .known ·)).mergeSort fun a b =>
      b.2.createdAt < a.2.createdAt || (a.2.createdAt == b.2.createdAt && b.1 ≤ a.1)).mapM
    fun (id, e) => e.view id

def completedOf (s : Store) (user : UserId) : Nat :=
  s.exchanges.entries.countP fun (_, e) => e.status == .known .completed && e.names user

/-- Changes an exchange's row while it has a status; answers whether it did. -/
def updateExchange (id : ExchangeId) (status : Exchange.Status)
    (f : Time → ExchangeRow → ExchangeRow) : Call Bool :=
  .update (·.exchanges.get? id) (fun _ e => e.status == .known status) fun s =>
    { s with exchanges := s.exchanges.modify id (f s.clock) }

/-- Reserves both books and writes the exchange; a user exchanges with no one but others. -/
def insertExchange (p : Exchange.Proposal) : Call Exchange := .transaction do
  reserveOwned p.initiatorBook p.initiator .initiatorNotOwner
  reserveOwned p.recipientBook p.recipient .recipientNotOwner
  .write fun s =>
    if p.initiator = p.recipient then .error (.storage .check)
    else if (s.users.get? p.initiator).isNone || (s.users.get? p.recipient).isNone ||
      (s.books.get? p.initiatorBook).isNone || (s.books.get? p.recipientBook).isNone then
      .error (.storage .foreignKey)
    else
      .ok ({
        id := s.exchanges.nextId
        initiator := p.initiator
        recipient := p.recipient
        initiatorBook := p.initiatorBook
        recipientBook := p.recipientBook
        status := .pending
        completedAt := none
        createdAt := s.clock
        updatedAt := s.clock }, { s with exchanges := s.exchanges.insert (p.row s.clock) }.tick)

def acceptExchange (e : Exchange) : Call Unit := do
  let accepted ← updateExchange e.id .pending .accept
  if !accepted then throw .notPending

/-- Hands each book to the other party and makes both available. -/
def completeExchange (e : Exchange) : Call Unit := .transaction do
  let completed ← updateExchange e.id .accepted (.complete e.completedAt)
  if !completed then throw .notAccepted
  transfer e.initiatorBook e.recipient
  transfer e.recipientBook e.initiator
  release e.initiatorBook
  release e.recipientBook

/-- Makes both books available. -/
def cancelExchange (e : Exchange) : Call Unit := .transaction do
  let cancelled ← updateExchange e.id .pending .cancel
  if !cancelled then throw .notPending
  release e.initiatorBook
  release e.recipientBook

end Store

end BookExchange
