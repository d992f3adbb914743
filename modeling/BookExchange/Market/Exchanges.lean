import BookExchange.Store.Exchanges

/-! The course of an exchange. Every check comes before the first write, so a call that is refused
leaves exchanges and books as they were. -/
namespace BookExchange.Market

def requireBook (id : BookId) : Call Book := do
  match ← .read (·.book? id) with
  | some book => return book
  | none => throw (.bookNotFound id)

def createExchange (initiator : UserId) (r : Exchange.Request) : Call Exchange := do
  if initiator = r.recipient then throw .sameParty
  let mine ← requireBook r.initiatorBook
  let theirs ← requireBook r.recipientBook
  if mine.owner ≠ initiator then throw .initiatorNotOwner
  if theirs.owner ≠ r.recipient then throw .recipientNotOwner
  if mine.status ≠ .available then throw .initiatorBookUnavailable
  if theirs.status ≠ .available then throw .recipientBookUnavailable
  Store.insertExchange ⟨initiator, r.recipient, mine.id, theirs.id⟩

def getExchange (id : ExchangeId) : Call Exchange := do
  if id ≤ 0 then throw .invalidId
  match ← .read (·.exchange? id) with
  | some exchange => return exchange
  | none => throw (.exchangeNotFound id)

def now : Call Time := .read fun s => .ok s.clock

def acceptExchange (id : ExchangeId) (actor : UserId) : Call Unit := do
  let exchange ← getExchange id
  let accepted ← exchange.accept actor (← now)
  Store.acceptExchange accepted

def completeExchange (id : ExchangeId) (actor : UserId) : Call Unit := do
  let exchange ← getExchange id
  let completed ← exchange.complete actor (← now)
  Store.completeExchange completed

def cancelExchange (id : ExchangeId) (actor : UserId) : Call Unit := do
  let exchange ← getExchange id
  let cancelled ← exchange.cancel actor (← now)
  Store.cancelExchange cancelled

def listExchanges : Call (List Exchange) := .read (·.allExchanges)

def exchangesOf (user : UserId) (status : Option Exchange.Status) : Call (List Exchange) :=
  .read (·.exchangesOf user status)

end BookExchange.Market
