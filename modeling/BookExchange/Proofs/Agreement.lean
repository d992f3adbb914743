import BookExchange.Proofs.Locking

/-! The rules of an exchange are written twice: as methods in memory, and as guarded statements of the
store. A service applies the method to the exchange that it has read and hands the result to the
statements. Where no write comes in between, the method alone decides, and the row becomes what the
method has made of the exchange. -/
namespace BookExchange
open Call

/-- What a user can do with an exchange. -/
inductive Exchange.Action where
  | accept
  | complete
  | cancel
deriving DecidableEq, Repr

namespace Exchange

namespace Action

/-- The status that the action moves on from. -/
def source : Action → Status
  | .accept | .cancel => .pending
  | .complete => .accepted

/-- The statement on the row of the exchange; `e` is what the method has made of the exchange. -/
def edit (a : Action) (e : Exchange) : Time → ExchangeRow → ExchangeRow :=
  match a with
  | .accept => .accept
  | .complete => .complete e.completedAt
  | .cancel => .cancel

/-- The statements on the rows of the books, in their order. -/
def edits (a : Action) (p : Proposal) : List (BookId × (Time → BookRow → BookRow)) :=
  match a with
  | .accept => []
  | .complete => [(p.initiatorBook, .transfer p.recipient), (p.recipientBook, .transfer p.initiator),
      (p.initiatorBook, .release), (p.recipientBook, .release)]
  | .cancel => [(p.initiatorBook, .release), (p.recipientBook, .release)]

end Action

/-- The method in memory. -/
def move (e : Exchange) : Action → UserId → Time → Except Failure Exchange
  | .accept => e.accept
  | .complete => e.complete
  | .cancel => e.cancel

/-- The time of completion that the method leaves. -/
def completedBy (e : Exchange) (now : Time) : Action → Option Time
  | .accept => e.completedAt
  | .complete => some (e.completedAt.getD now)
  | .cancel => none

variable {e e' : Exchange} {a : Action} {actor : UserId} {now : Time}

/-- All that a successful method says. -/
theorem of_move (h : e.move a actor now = .ok e') :
    e.status = a.source ∧ e'.id = e.id ∧ e'.terms = e.terms ∧
      e'.completedAt = e.completedBy now a ∧ e'.updatedAt = now := by
  cases a with
  | accept =>
    obtain ⟨hs, -, rfl⟩ := accept_eq_ok.mp h
    exact ⟨hs, rfl, rfl, rfl, rfl⟩
  | complete =>
    obtain ⟨hs, -, rfl⟩ := complete_eq_ok.mp h
    exact ⟨hs, rfl, rfl, rfl, rfl⟩
  | cancel =>
    obtain ⟨hs, -, rfl⟩ := cancel_eq_ok.mp h
    exact ⟨hs, rfl, rfl, rfl, rfl⟩

/-- Whether a method succeeds, and how it fails, does not depend on the time. -/
theorem move_at {α : Type} (r : Except Failure α) (now later : Time) :
    ((e.move a actor now).bind fun _ => r) = (e.move a actor later).bind fun _ => r := by
  cases a with
  | accept =>
    simp only [move, accept]
    split
    · rfl
    · split <;> rfl
  | complete =>
    simp only [move, complete]
    split
    · rfl
    · split <;> rfl
  | cancel =>
    simp only [move, cancel]
    split
    · rfl
    · split <;> rfl

end Exchange

namespace Store
variable {s : Store} {e e' : Exchange} {a : Exchange.Action} {actor : UserId}

/-- The rows of the parties and of the books are there. -/
structure Backs (s : Store) (p : Exchange.Proposal) : Prop where
  initiator : (s.users.get? p.initiator).isSome
  recipient : (s.users.get? p.recipient).isSome
  initiatorBook : (s.books.get? p.initiatorBook).isSome
  recipientBook : (s.books.get? p.recipientBook).isSome

/-- Statements on the rows of books, one after the other. -/
def setBooks (s : Store) (ws : List (BookId × (Time → BookRow → BookRow))) : Store :=
  ws.foldl (fun t w => t.setBook w.1 w.2) s

/-- What the statements of an action leave. -/
def moved (s : Store) (a : Exchange.Action) (e : Exchange) : Store :=
  (s.setExchange e.id (a.edit e)).setBooks (a.edits e.terms)

@[simp] theorem setBooks_exchanges (s : Store) (ws : List (BookId × (Time → BookRow → BookRow))) :
    (s.setBooks ws).exchanges = s.exchanges := by
  induction ws generalizing s with
  | nil => rfl
  | cons w ws ih => exact ih _

theorem moved_exchanges (s : Store) (a : Exchange.Action) (e : Exchange) :
    (s.moved a e).exchanges = s.exchanges.modify e.id (a.edit e s.clock) := by
  rw [moved, setBooks_exchanges]
  rfl

/-- The row shows what the method has made of the exchange, some time before it is written. -/
theorem exchange?_moved (found : s.exchange? e.id = .ok (some e)) {now : Time}
    (moved : e.move a actor now = .ok e') :
    (s.moved a e').exchange? e.id = .ok (some { e' with updatedAt := s.clock }) := by
  obtain ⟨row, status, hrow, hs, he⟩ := exchange?_eq_some.mp found
  have hid : e'.id = e.id := (Exchange.of_move moved).2.1
  have hrow' : (s.moved a e').exchanges.get? e.id = some (a.edit e' s.clock row) := by
    rw [moved_exchanges, Table.get?_modify, if_pos hid.symm, hrow]
    rfl
  cases a with
  | accept =>
    obtain ⟨-, -, rfl⟩ := Exchange.accept_eq_ok.mp moved
    exact exchange?_eq_some.mpr ⟨_, .accepted, hrow', rfl, by rw [he]; rfl⟩
  | complete =>
    obtain ⟨-, -, rfl⟩ := Exchange.complete_eq_ok.mp moved
    refine exchange?_eq_some.mpr ⟨_, .completed, hrow', rfl, ?_⟩
    -- The statement, too, leaves a time of completion that is set already.
    rw [he]
    cases hat : row.completedAt <;> simp [Exchange.Action.edit, ExchangeRow.complete, hat]
  | cancel =>
    obtain ⟨-, -, rfl⟩ := Exchange.cancel_eq_ok.mp moved
    exact exchange?_eq_some.mpr ⟨_, .cancelled, hrow', rfl, by rw [he]; rfl⟩

end Store

namespace Market
variable {summarize : String → String} {s : Store} {e e' : Exchange} {a : Exchange.Action}
  {actor : UserId} {row : ExchangeRow}

/-- The port of an action. -/
def Port.move : Exchange.Action → Exchange → Port
  | .accept => .acceptExchange
  | .complete => .completeExchange
  | .cancel => .cancelExchange

/-- The service of an action. -/
def Operation.move : Exchange.Action → ExchangeId → UserId → Operation
  | .accept => .acceptExchange
  | .complete => .completeExchange
  | .cancel => .cancelExchange

theorem outcome_acceptExchange (unlocked : s.locked = false) (found : s.exchanges.get? e.id = some row)
    (pending : row.status = .known .pending) :
    outcome (Store.acceptExchange e) s = (.ok (), s.moved .accept e) :=
  (Store.updateExchange_bind_eq_ok (refuses_throw _)).mpr ⟨unlocked, row, found, pending, rfl⟩

theorem outcome_completeExchange (unlocked : s.locked = false)
    (found : s.exchanges.get? e.id = some row) (accepted : row.status = .known .accepted)
    (backed : s.Backs e.terms) :
    outcome (Store.completeExchange e) s = (.ok (), s.moved .complete e) := by
  have hmine : (s.books.get? e.initiatorBook).isSome := backed.initiatorBook
  have htheirs : (s.books.get? e.recipientBook).isSome := backed.recipientBook
  have hbooks : outcome (do
      Store.transfer e.initiatorBook e.recipient
      Store.transfer e.recipientBook e.initiator
      Store.release e.initiatorBook
      Store.release e.recipientBook)
      (s.setExchange e.id (.complete e.completedAt)) = (.ok (), s.moved .complete e) := by
    refine bind_eq_ok.mpr ⟨(), _, Store.transfer_of_isSome unlocked hmine backed.recipient, ?_⟩
    refine bind_eq_ok.mpr ⟨(), _, Store.transfer_of_isSome unlocked ?_ backed.initiator, ?_⟩
    · simpa only [Store.isSome_setBook, Store.setExchange_books] using htheirs
    refine bind_eq_ok.mpr ⟨(), _, Store.release_of_isSome unlocked ?_, ?_⟩
    · simpa only [Store.isSome_setBook, Store.setExchange_books] using hmine
    refine Store.release_of_isSome unlocked ?_
    simpa only [Store.isSome_setBook, Store.setExchange_books] using htheirs
  refine transaction_eq_ok.mpr ((Store.updateExchange_bind_eq_ok ?_).mpr
    ⟨unlocked, row, found, accepted, hbooks⟩)
  intro u x v hu
  simp at hu

theorem outcome_cancelExchange (unlocked : s.locked = false)
    (found : s.exchanges.get? e.id = some row) (pending : row.status = .known .pending)
    (backed : s.Backs e.terms) :
    outcome (Store.cancelExchange e) s = (.ok (), s.moved .cancel e) := by
  have hmine : (s.books.get? e.initiatorBook).isSome := backed.initiatorBook
  have htheirs : (s.books.get? e.recipientBook).isSome := backed.recipientBook
  have hbooks : outcome (do
      Store.release e.initiatorBook
      Store.release e.recipientBook) (s.setExchange e.id .cancel) = (.ok (), s.moved .cancel e) := by
    refine bind_eq_ok.mpr ⟨(), _, Store.release_of_isSome unlocked hmine, ?_⟩
    refine Store.release_of_isSome unlocked ?_
    simpa only [Store.isSome_setBook, Store.setExchange_books] using htheirs
  refine transaction_eq_ok.mpr ((Store.updateExchange_bind_eq_ok ?_).mpr
    ⟨unlocked, row, found, pending, hbooks⟩)
  intro u x v hu
  simp at hu

/-- What the guard of the statement allows, the whole port does. -/
theorem Port.outcome_move (unlocked : s.locked = false) (found : s.exchanges.get? e.id = some row)
    (ready : row.status = .known a.source) (backed : s.Backs e.terms) :
    outcome (Port.move a e).perform s = (.ok .done, s.moved a e) := by
  cases a with
  | accept => exact then_pure_eq_ok.mpr ⟨outcome_acceptExchange unlocked found ready, rfl⟩
  | complete => exact then_pure_eq_ok.mpr ⟨outcome_completeExchange unlocked found ready backed, rfl⟩
  | cancel => exact then_pure_eq_ok.mpr ⟨outcome_cancelExchange unlocked found ready backed, rfl⟩

/-- One call of a service that moves an exchange on. -/
structure Move where
  action : Exchange.Action
  exchange : ExchangeId
  actor : UserId
deriving DecidableEq, Repr

namespace Move
variable {m : Move}

def operation (m : Move) : Operation := .move m.action m.exchange m.actor

/-- The exchange that the service reads. -/
def load (s : Store) (id : ExchangeId) : Except Failure Exchange :=
  if id ≤ 0 then .error .invalidId
  else match s.exchange? id with
    | .ok (some e) => .ok e
    | .ok none => .error (.exchangeNotFound id)
    | .error f => .error f

/-- What the method makes of the exchange that the service reads. -/
def verdict (m : Move) (s : Store) : Except Failure Exchange :=
  (load s m.exchange).bind fun e => e.move m.action m.actor s.clock

theorem outcome_getExchange (id : ExchangeId) (s : Store) :
    outcome (getExchange id) s = (load s id, s) := by
  by_cases hid : id ≤ 0
  · simp [getExchange, load, hid]
  · cases he : s.exchange? id with
    | error f => simp [getExchange, load, hid, outcome_bind, he]
    | ok found => cases found <;> simp [getExchange, load, hid, outcome_bind, he]

theorem load_of_exchange? {id : ExchangeId} (found : s.exchange? id = .ok (some e)) :
    load s id = .ok e := by
  obtain ⟨row, -, hrow, -⟩ := Store.exchange?_eq_some.mp found
  have hid := Int.not_le.mpr (Table.pos_of_get? hrow)
  simp [load, hid, found]

theorem verdict_of_exchange? {id : ExchangeId} (found : s.exchange? id = .ok (some e))
    (a : Exchange.Action) (actor : UserId) :
    verdict ⟨a, id, actor⟩ s = e.move a actor s.clock := by
  simp only [verdict, load_of_exchange? found]
  rfl

/-- The three services are one: read, apply the method, hand the result to the port. -/
theorem perform_operation (m : Move) :
    perform summarize m.operation = (do
      let e ← getExchange m.exchange
      let e' ← e.move m.action m.actor (← now)
      (Port.move m.action e').perform) := by
  obtain ⟨a, id, actor⟩ := m
  cases a with
  | accept =>
    simp [operation, Operation.move, perform, acceptExchange, Exchange.move, Port.move, Port.perform]
  | complete =>
    simp [operation, Operation.move, perform, completeExchange, Exchange.move, Port.move, Port.perform]
  | cancel =>
    simp [operation, Operation.move, perform, cancelExchange, Exchange.move, Port.move, Port.perform]

/-- The method decides what comes to the port. -/
theorem outcome_perform (m : Move) (s : Store) :
    outcome (perform summarize m.operation) s = match m.verdict s with
      | .ok e => outcome (Port.move m.action e).perform s
      | .error f => (.error f, s) := by
  rw [perform_operation, outcome_bind, outcome_getExchange, verdict]
  cases hload : load s m.exchange with
  | error f => rfl
  | ok e =>
    cases hmove : e.move m.action m.actor s.clock <;>
      simp [outcome_bind, now, hmove, Except.bind]

theorem verdict_eq_ok : m.verdict s = .ok e' ↔
    ∃ e, s.exchange? m.exchange = .ok (some e) ∧ e.move m.action m.actor s.clock = .ok e' := by
  constructor
  · intro h
    obtain ⟨e, hload, hmove⟩ := except_bind_eq_ok.mp h
    unfold load at hload
    split at hload
    · cases hload
    · split at hload
      · rename_i found
        cases hload
        exact ⟨e, found, hmove⟩
      · cases hload
      · cases hload
  · intro h
    obtain ⟨e, found, hmove⟩ := h
    exact except_bind_eq_ok.mpr ⟨e, load_of_exchange? found, hmove⟩

/-- What the method allows, the port does; only a held lock can still stop it. -/
theorem outcome_port {id : ExchangeId} (found : s.exchange? id = .ok (some e))
    (backed : s.Backs e.terms) {now : Time} (moved : e.move a actor now = .ok e') :
    outcome (Port.move a e').perform s =
      if s.locked then (.error .locked, s) else (.ok .done, s.moved a e') := by
  obtain ⟨hstatus, hid, hterms, -⟩ := Exchange.of_move moved
  obtain ⟨row, status, hrow, hs, rfl⟩ := Store.exchange?_eq_some.mp found
  have hready : row.status = .known a.source := hstatus ▸ hs
  cases unlocked : s.locked with
  | true => exact (Port.move a e').opens.blocked unlocked
  | false => exact Port.outcome_move unlocked (hid ▸ hrow) hready (hterms ▸ backed)

/-- Where the rows that the exchange names are there, the method and the lock decide all. -/
theorem outcome_of_backed
    (backed : ∀ e, s.exchange? m.exchange = .ok (some e) → s.Backs e.terms) :
    outcome (perform summarize m.operation) s = match m.verdict s with
      | .ok e => if s.locked then (.error .locked, s) else (.ok .done, s.moved m.action e)
      | .error f => (.error f, s) := by
  rw [outcome_perform]
  cases hv : m.verdict s with
  | error f => rfl
  | ok e' =>
    obtain ⟨e, found, moved⟩ := verdict_eq_ok.mp hv
    exact outcome_port found (backed e found) moved

def command (summarize : String → String) (m : Move) : Command := .service summarize m.operation

/-- What the service makes of an exchange that it finds. -/
theorem outcome_of_found (summarize : String → String) (found : s.exchange? e.id = .ok (some e))
    (backed : s.Backs e.terms) (a : Exchange.Action) (actor : UserId) :
    outcome (command summarize ⟨a, e.id, actor⟩).perform s =
      match e.move a actor s.clock with
      | .ok e' => if s.locked then (.error .locked, s) else (.ok .done, s.moved a e')
      | .error f => (.error f, s) := by
  rw [← verdict_of_exchange? found]
  refine outcome_of_backed fun e'' found' => ?_
  cases found.symm.trans found'
  exact backed

end Move

/-- The service of an action on an exchange against the method on the exchange alone. -/
structure Agree (summarize : String → String) (s : Store) (e : Exchange) (a : Exchange.Action)
    (actor : UserId) : Prop where
  /-- The service succeeds exactly when the method does, and fails as it does. Only a held lock can
  still stop what the method allows. -/
  answer (now : Time) : (Move.command summarize ⟨a, e.id, actor⟩).answer s =
    (e.move a actor now).bind fun _ => if s.locked then .error .locked else .ok .done
  /-- A failed service has done nothing. -/
  unchanged (failed : (Move.command summarize ⟨a, e.id, actor⟩).answer s ≠ .ok .done) :
    (Move.command summarize ⟨a, e.id, actor⟩).after s = s
  /-- The row shows what the method makes of the exchange, -/
  stored (e' : Exchange) (moved : e.move a actor s.clock = .ok e') (unlocked : s.locked = false) :
    ((Move.command summarize ⟨a, e.id, actor⟩).after s).exchange? e.id = .ok (some e')
  /-- with its terms; a time of completion that is set already stays when the exchange is completed
  and goes when it is cancelled. -/
  kept (e' : Exchange) (now : Time) (moved : e.move a actor now = .ok e') :
    e'.id = e.id ∧ e'.terms = e.terms ∧ e'.completedAt = e.completedBy now a
  /-- The guard of the statement refuses nothing that the method has allowed, however long ago, -/
  guarded (e' : Exchange) (now : Time) (moved : e.move a actor now = .ok e') :
    (Command.port (Port.move a e')).answer s = if s.locked then .error .locked else .ok .done
  /-- and only the last change is dated by the statement. -/
  written (e' : Exchange) (now : Time) (moved : e.move a actor now = .ok e')
    (unlocked : s.locked = false) : ((Command.port (Port.move a e')).after s).exchange? e.id =
      .ok (some { e' with updatedAt := s.clock })

/-- In every store the methods and the statements agree on an exchange whose books and parties are
there. -/
theorem actions_agree (found : s.exchange? e.id = .ok (some e)) (backed : s.Backs e.terms)
    (a : Exchange.Action) (actor : UserId) : Agree summarize s e a actor := by
  have hservice := Move.outcome_of_found summarize found backed a actor
  have hanswer := congrArg Prod.fst hservice
  have hafter := congrArg Prod.snd hservice
  constructor
  · intro now
    rw [Exchange.move_at _ now s.clock]
    refine hanswer.trans ?_
    cases e.move a actor s.clock <;> cases s.locked <;> rfl
  · intro failed
    refine hafter.trans ?_
    cases hmove : e.move a actor s.clock with
    | error f => rfl
    | ok e' =>
      cases hl : s.locked with
      | true => rfl
      | false => exact absurd (hanswer.trans (by simp [hmove, hl])) failed
  · intro e' moved unlocked
    have hstore : (Move.command summarize ⟨a, e.id, actor⟩).after s = s.moved a e' :=
      hafter.trans (by simp [moved, unlocked])
    obtain ⟨-, -, -, -, hnow⟩ := Exchange.of_move moved
    rw [hstore, Store.exchange?_moved found moved, ← hnow]
  · intro e' now moved
    obtain ⟨-, hid, hterms, hat, -⟩ := Exchange.of_move moved
    exact ⟨hid, hterms, hat⟩
  · intro e' now moved
    refine (congrArg Prod.fst (Move.outcome_port found backed moved)).trans ?_
    cases s.locked <;> rfl
  · intro e' now moved unlocked
    have hport := congrArg Prod.snd (Move.outcome_port found backed moved)
    have hstore : (Command.port (Port.move a e')).after s = s.moved a e' :=
      hport.trans (by simp [unlocked])
    rw [hstore, Store.exchange?_moved found moved]

/-- Two users are in an exchange that is accepted and bears a time of completion already. -/
def overdue : Store :=
  { Store.fresh with
    users := ⟨[some ⟨"Ana", "a@x", "Porto", "porto", "", 0, none⟩,
      some ⟨"Rui", "r@x", "Porto", "porto", "", 1, none⟩]⟩
    books := ⟨[some ⟨"A", "B", "a", "b", "", "", .known .reserved, 1, 2, 4, none⟩,
      some ⟨"C", "D", "c", "d", "", "", .known .reserved, 2, 3, 5, none⟩]⟩
    exchanges := ⟨[some ⟨1, 2, 1, 2, .known .accepted, some 3, 6, 7⟩]⟩
    clock := 8 }

/-- The recipient completes the exchange: it keeps its time of completion. -/
theorem actions_agree_overdue :
    (Command.service id (.completeExchange 1 2)).answer overdue = .ok .done ∧
      ((Command.service id (.completeExchange 1 2)).after overdue).exchange? 1 =
        .ok (some ⟨1, 1, 2, 1, 2, .completed, some 3, 6, 8⟩) := by
  have found : overdue.exchange? 1 = .ok (some ⟨1, 1, 2, 1, 2, .accepted, some 3, 6, 7⟩) := rfl
  have backed : overdue.Backs ⟨1, 2, 1, 2⟩ := ⟨rfl, rfl, rfl, rfl⟩
  have hagree : Agree id overdue ⟨1, 1, 2, 1, 2, .accepted, some 3, 6, 7⟩ .complete 2 :=
    actions_agree found backed .complete 2
  exact ⟨hagree.answer 8, hagree.stored _ rfl rfl⟩

end Market

end BookExchange
