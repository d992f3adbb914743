import BookExchange.Proofs.Services

/-! What a command does to an exchange. Whatever is asked, a row stays, is created, accepted, completed
or cancelled, and the statement that moves it on has seen the status it moves on from. -/
namespace BookExchange

/-- The parties and the books. -/
def Exchange.terms (e : Exchange) : Exchange.Proposal :=
  ⟨e.initiator, e.recipient, e.initiatorBook, e.recipientBook⟩

/-- The parties and the books. -/
def ExchangeRow.terms (row : ExchangeRow) : Exchange.Proposal :=
  ⟨row.initiator, row.recipient, row.initiatorBook, row.recipientBook⟩

/-- The exchange was read from the store; since then its reader may have moved it on in memory. -/
def Store.Shows (s : Store) (e : Exchange) : Prop :=
  ∃ e', s.exchange? e.id = .ok (some e') ∧
    e = { e' with status := e.status, completedAt := e.completedAt, updatedAt := e.updatedAt }

/-- What one command can make of a row, or of a row that is not there yet. -/
inductive ExchangeRow.Next : Option ExchangeRow → Option ExchangeRow → Prop where
  | stays (row? : Option ExchangeRow) : Next row? row?
  | create (p : Exchange.Proposal) (now : Time) : Next none (some (p.row now))
  | accept {row : ExchangeRow} (pending : row.status = .known .pending) (now : Time) :
      Next (some row) (some (row.accept now))
  | complete {row : ExchangeRow} (accepted : row.status = .known .accepted) (at? : Option Time)
      (now : Time) : Next (some row) (some (row.complete at? now))
  | cancel {row : ExchangeRow} (pending : row.status = .known .pending) (now : Time) :
      Next (some row) (some (row.cancel now))

/-! In memory. -/
namespace Exchange
variable {e e' : Exchange} {actor : UserId} {now : Time}

theorem accept_eq_ok : e.accept actor now = .ok e' ↔
    e.status = .pending ∧ actor = e.recipient ∧
      e' = { e with status := .accepted, updatedAt := now } := by
  by_cases hs : e.status = .pending <;> by_cases ha : actor = e.recipient <;>
    simp [accept, hs, ha, @eq_comm _ e']

theorem complete_eq_ok : e.complete actor now = .ok e' ↔
    e.status = .accepted ∧ e.isParty actor ∧
      e' = { e with
        status := .completed, completedAt := some (e.completedAt.getD now), updatedAt := now } := by
  by_cases hs : e.status = .accepted <;> by_cases ha : e.isParty actor <;>
    simp [complete, hs, ha, @eq_comm _ e']

theorem cancel_eq_ok : e.cancel actor now = .ok e' ↔
    e.status = .pending ∧ actor = e.initiator ∧
      e' = { e with status := .cancelled, completedAt := none, updatedAt := now } := by
  by_cases hs : e.status = .pending <;> by_cases ha : actor = e.initiator <;>
    simp [cancel, hs, ha, @eq_comm _ e']

end Exchange

/-! In the store. -/
namespace Store
variable {s t : Store} {id : ExchangeId} {e : Exchange}

theorem exchange?_eq_some : s.exchange? id = .ok (some e) ↔
    ∃ row status, s.exchanges.get? id = some row ∧ row.status = .known status ∧
      e = ⟨id, row.initiator, row.recipient, row.initiatorBook, row.recipientBook, status,
        row.completedAt, row.createdAt, row.updatedAt⟩ := by
  cases hrow : s.exchanges.get? id with
  | none => simp [exchange?, hrow]
  | some row =>
    cases hs : row.status <;>
      simp [exchange?, hrow, ExchangeRow.view, hs, Stored.decode, bind, Except.bind, pure,
        Except.pure, @eq_comm _ e]

theorem exchange?_id (h : s.exchange? id = .ok (some e)) : e.id = id := by
  obtain ⟨row, status, -, -, rfl⟩ := exchange?_eq_some.mp h
  rfl

theorem Shows.terms (h : s.Shows e) :
    ∃ row, s.exchanges.get? e.id = some row ∧ row.terms = e.terms := by
  obtain ⟨e', he', heq⟩ := h
  obtain ⟨row, status, hrow, -, hrow'⟩ := exchange?_eq_some.mp he'
  exact ⟨row, hrow, by rw [heq, hrow']; rfl⟩

theorem shows_of_exchange? (h : s.exchange? id = .ok (some e)) {e' : Exchange}
    (he' : e' = { e with
      status := e'.status, completedAt := e'.completedAt, updatedAt := e'.updatedAt }) :
    s.Shows e' := by
  have hid : e'.id = e.id := by rw [he']
  rw [exchange?_id h] at hid
  exact ⟨e, hid ▸ h, he'⟩

end Store

namespace Market
variable {s t : Store} {p : Port}

/-- A service moves an exchange on as the store shows it. -/
theorem Operation.Reaches.shows {summarize : String → String} {op : Operation}
    (h : op.Reaches summarize s p) :
    match p with
    | .acceptExchange e | .completeExchange e | .cancelExchange e => s.Shows e
    | _ => True := by
  cases h with
  | acceptExchange positive found accepted =>
    obtain ⟨-, -, rfl⟩ := Exchange.accept_eq_ok.mp accepted
    exact Store.shows_of_exchange? found rfl
  | completeExchange positive found completed =>
    obtain ⟨-, -, rfl⟩ := Exchange.complete_eq_ok.mp completed
    exact Store.shows_of_exchange? found rfl
  | cancelExchange positive found cancelled =>
    obtain ⟨-, -, rfl⟩ := Exchange.cancel_eq_ok.mp cancelled
    exact Store.shows_of_exchange? found rfl
  | _ => trivial

theorem Port.Writes.next (h : p.Writes s t) (id : ExchangeId) :
    ExchangeRow.Next (s.exchanges.get? id) (t.exchanges.get? id) := by
  cases h with
  | @insertExchange q mine theirs =>
    by_cases hid : id = s.exchanges.nextId
    · subst hid
      simpa [Table.get?_insert, Table.get?_nextId] using ExchangeRow.Next.create q (s.clock + 2)
    · simpa [Table.get?_insert, hid] using ExchangeRow.Next.stays _
  | @acceptExchange e row found pending =>
    by_cases hid : id = e.id
    · subst hid
      simpa [found] using ExchangeRow.Next.accept pending s.clock
    · simpa [hid] using ExchangeRow.Next.stays _
  | @completeExchange e row mine theirs found accepted =>
    by_cases hid : id = e.id
    · subst hid
      simpa [found] using ExchangeRow.Next.complete accepted e.completedAt s.clock
    · simpa [hid] using ExchangeRow.Next.stays _
  | @cancelExchange e row mine theirs found pending =>
    by_cases hid : id = e.id
    · subst hid
      simpa [found] using ExchangeRow.Next.cancel pending s.clock
    · simpa [hid] using ExchangeRow.Next.stays _
  | _ => exact .stays _

theorem Command.next (c : Command) (s : Store) (id : ExchangeId) :
    ExchangeRow.Next (s.exchanges.get? id) ((c.after s).exchanges.get? id) := by
  obtain h | ⟨p, -, h⟩ := c.after_cases s
  · rw [h]
    exact .stays _
  · exact h.next id

end Market

end BookExchange
