import BookExchange.Proofs.Closure
import BookExchange.Proofs.Independence

/-! What becomes of a call that moves an exchange on. Its rules are tried in their order, and the first
that applies refuses the call; where none does the call succeeds, for the rows that its statements need
are there in every run. A call that succeeds changes the row of the exchange and the rows of its two
books, and no other row. -/
namespace BookExchange
open Call

/-- The failure of the first rule that applies. -/
def Failure.first (rules : List (Bool × Failure)) : Option Failure := (rules.find? (·.1)).map (·.2)

@[simp] theorem Failure.first_nil : first [] = none := rfl

@[simp] theorem Failure.first_cons (applies : Bool) (f : Failure) (rules : List (Bool × Failure)) :
    first ((applies, f) :: rules) = if applies then some f else first rules := by
  cases applies <;> rfl

theorem Failure.mem_of_first {rules : List (Bool × Failure)} {f : Failure}
    (h : first rules = some f) : ∃ applies, (applies, f) ∈ rules := by
  obtain ⟨r, hr, rfl⟩ := Option.map_eq_some_iff.mp h
  exact ⟨r.1, List.mem_of_find?_eq_some hr⟩

namespace Exchange.Action

/-- The status that the action moves on to. -/
def target : Action → Status
  | .accept => .accepted
  | .complete => .completed
  | .cancel => .cancelled

/-- What is said of an exchange in any other status than the source. -/
def refusal : Action → Failure
  | .accept | .cancel => .notPending
  | .complete => .notAccepted

/-- The recipient accepts, either party completes, the initiator cancels. -/
def allows (a : Action) (p : Proposal) (actor : UserId) : Bool :=
  match a with
  | .accept => actor == p.recipient
  | .complete => actor == p.initiator || actor == p.recipient
  | .cancel => actor == p.initiator

/-- The time of completion afterwards. -/
def completion (a : Action) (at? : Time) : Option Time :=
  match a with
  | .complete => some at?
  | .accept | .cancel => none

/-- What becomes of a book: the parties swap the two that they have brought, or get them back. -/
def handle (a : Action) (p : Proposal) (b : BookId) (at? : Time) : BookRow → BookRow :=
  match a with
  | .accept => fun book => book
  | .complete =>
    if b = p.initiatorBook then fun book =>
      { book with owner := p.recipient, status := .known .available, updatedAt := at? }
    else if b = p.recipientBook then fun book =>
      { book with owner := p.initiator, status := .known .available, updatedAt := at? }
    else fun book => book
  | .cancel =>
    if b = p.initiatorBook ∨ b = p.recipientBook then fun book =>
      { book with status := .known .available, updatedAt := at? }
    else fun book => book

end Exchange.Action

namespace Exchange
variable {e : Exchange} {a : Action} {actor : UserId} {now : Time}

theorem move_of_status_ne (h : e.status ≠ a.source) : e.move a actor now = .error a.refusal := by
  cases a <;> exact if_pos h

theorem move_of_not_allows (hs : e.status = a.source) (h : a.allows e.terms actor = false) :
    e.move a actor now = .error .forbidden := by
  cases a with
  | accept =>
    have hactor : actor ≠ e.recipient := by simpa [Action.allows, terms] using h
    simp [move, accept, hs, Action.source, hactor]
  | complete =>
    have hactor : e.isParty actor = false := h
    simp [move, complete, hs, Action.source, hactor]
  | cancel =>
    have hactor : actor ≠ e.initiator := by simpa [Action.allows, terms] using h
    simp [move, cancel, hs, Action.source, hactor]

theorem exists_move_of_allows (hs : e.status = a.source) (h : a.allows e.terms actor) (now : Time) :
    ∃ e', e.move a actor now = .ok e' := by
  cases a with
  | accept => exact ⟨_, accept_eq_ok.mpr ⟨hs, by simpa [Action.allows, terms] using h, rfl⟩⟩
  | complete => exact ⟨_, complete_eq_ok.mpr ⟨hs, h, rfl⟩⟩
  | cancel => exact ⟨_, cancel_eq_ok.mpr ⟨hs, by simpa [Action.allows, terms] using h, rfl⟩⟩

end Exchange

namespace Store

/-- The action on an exchange, whose row was `row`, and nothing else. -/
structure Performs (s : Store) (a : Exchange.Action) (x : ExchangeId) (row : ExchangeRow)
    (t : Store) : Prop where
  exchange : ∃ at?, t.exchanges.get? x = some { row with
    status := .known a.target, completedAt := a.completion at?, updatedAt := at? }
  otherExchanges : ∀ y, y ≠ x → t.exchanges.get? y = s.exchanges.get? y
  /-- Each party has brought the own book, which the exchange held. -/
  held : ∀ b u, row.terms.Brings b u → s.HeldFrom b u
  books : ∀ b, ∃ at?, t.books.get? b = (s.books.get? b).map (a.handle row.terms b at?)
  numbers : t.exchanges.nextId = s.exchanges.nextId ∧ t.books.nextId = s.books.nextId
  /-- No other table has changed. -/
  rest : t = { s with exchanges := t.exchanges, books := t.books, clock := t.clock }

variable {s : Store} {a : Exchange.Action} {e e' : Exchange} {row : ExchangeRow}

@[simp] theorem setBooks_cons (s : Store) (w : BookId × (Time → BookRow → BookRow))
    (ws : List (BookId × (Time → BookRow → BookRow))) :
    s.setBooks (w :: ws) = (s.setBook w.1 w.2).setBooks ws := rfl

@[simp] theorem setBooks_nil (s : Store) : s.setBooks [] = s := rfl

theorem setBooks_nextId (s : Store) (ws : List (BookId × (Time → BookRow → BookRow))) :
    (s.setBooks ws).books.nextId = s.books.nextId := by
  induction ws generalizing s with
  | nil => rfl
  | cons w ws ih => rw [setBooks_cons, ih, setBook_nextId]

theorem setBooks_rest (s : Store) (ws : List (BookId × (Time → BookRow → BookRow))) :
    s.setBooks ws =
      { s with books := (s.setBooks ws).books, clock := (s.setBooks ws).clock } := by
  induction ws generalizing s with
  | nil => rfl
  | cons w ws ih => exact ih (s.setBook w.1 w.2)

/-- The statements on the two books, taken together. -/
theorem moved_books_get? (s : Store) (a : Exchange.Action) (e : Exchange)
    (books : e.terms.initiatorBook ≠ e.terms.recipientBook) (b : BookId) :
    ∃ at?, (s.moved a e).books.get? b = (s.books.get? b).map (a.handle e.terms b at?) := by
  have books : e.initiatorBook ≠ e.recipientBook := books
  cases a with
  | accept => exact ⟨0, by simp [moved, Exchange.Action.edits, Exchange.Action.handle]⟩
  | complete =>
    simp only [moved, Exchange.Action.edits, setBooks_cons, setBooks_nil, setBook_get?,
      setExchange_books, Exchange.terms, Exchange.Action.handle]
    by_cases hmine : b = e.initiatorBook
    · subst hmine
      simp only [books, ↓reduceIte, Option.map_map]
      exact ⟨_, rfl⟩
    · by_cases htheirs : b = e.recipientBook
      · subst htheirs
        simp only [books.symm, ↓reduceIte, Option.map_map]
        exact ⟨_, rfl⟩
      · simp [hmine, htheirs]
  | cancel =>
    simp only [moved, Exchange.Action.edits, setBooks_cons, setBooks_nil, setBook_get?,
      setExchange_books, Exchange.terms, Exchange.Action.handle]
    by_cases hmine : b = e.initiatorBook
    · subst hmine
      simp only [books, ↓reduceIte, true_or]
      exact ⟨_, rfl⟩
    · by_cases htheirs : b = e.recipientBook
      · subst htheirs
        simp only [books.symm, ↓reduceIte, or_true]
        exact ⟨_, rfl⟩
      · simp [hmine, htheirs]

theorem moved_books_nextId (s : Store) (a : Exchange.Action) (e : Exchange) :
    (s.moved a e).books.nextId = s.books.nextId :=
  setBooks_nextId ..

theorem moved_rest (s : Store) (a : Exchange.Action) (e : Exchange) :
    s.moved a e = { s with
      exchanges := (s.moved a e).exchanges, books := (s.moved a e).books,
      clock := (s.moved a e).clock } := by
  rw [moved, setBooks_rest]
  rfl

/-- The action on an exchange that the method has allowed just now. -/
theorem performs_moved {x : ExchangeId} {actor : UserId} (consistent : s.Consistent)
    (found : s.exchanges.get? x = some row) (dated : row.Dated)
    (read : s.exchange? x = .ok (some e)) (moved : e.move a actor s.clock = .ok e') :
    s.Performs a x row (s.moved a e') := by
  obtain ⟨row', status, found', hs, rfl⟩ := exchange?_eq_some.mp read
  cases found.symm.trans found'
  obtain ⟨hsource, hid, hterms, hat, -⟩ := Exchange.of_move moved
  have hid : e'.id = x := hid
  have hterms : e'.terms = row.terms := hterms
  have hstatus : row.status = .known a.source := hsource ▸ hs
  have hopen : a.source.isActive ∧ a.source ≠ .completed := by cases a <;> decide
  have hnone : row.completedAt = none := dated.not_completed hstatus hopen.2
  have hactive : s.Active x row.terms := active_of_get? found hstatus hopen.1 rfl
  constructor
  · refine ⟨s.clock, ?_⟩
    rw [moved_exchanges, Table.get?_modify, if_pos hid.symm, found]
    cases a with
    | accept => exact congrArg (fun at? => some { row.accept s.clock with completedAt := at? }) hnone
    | complete =>
      simp only [Exchange.completedBy, hnone] at hat
      simp [Exchange.Action.edit, ExchangeRow.complete, hat, hnone, Exchange.Action.target,
        Exchange.Action.completion]
    | cancel => rfl
  · intro y hy
    rw [moved_exchanges, Table.get?_modify, if_neg (hid ▸ hy)]
  · exact fun b u hb => consistent.held _ _ b u hactive hb
  · intro b
    have hbooks := moved_books_get? s a e' (hterms ▸ (consistent.distinct _ _ hactive).2) b
    rwa [hterms] at hbooks
  · exact ⟨by rw [moved_exchanges, Table.nextId_modify], moved_books_nextId s a e'⟩
  · exact moved_rest s a e'

end Store

namespace Market
variable {summarize : String → String} {s t : Store} {m : Move}

namespace Move

/-- The rules in their order. -/
def rules (m : Move) (s : Store) : List (Bool × Failure) :=
  let row? := s.exchanges.get? m.exchange
  [(m.exchange ≤ 0, .invalidId),
    (row?.isNone, .exchangeNotFound m.exchange),
    (row?.any (·.status != .known m.action.source), m.action.refusal),
    (row?.any fun row => !m.action.allows row.terms m.actor, .forbidden)]

/-- The first rule that applies refuses the call, which leaves the store as it is. Where none applies
the call performs its action. -/
structure Decided (m : Move) (s : Store) (answer : Except Failure Answer) (t : Store) : Prop where
  refused (f : Failure) (first : Failure.first (m.rules s) = some f) : answer = .error f ∧ t = s
  done (free : Failure.first (m.rules s) = none) : answer = .ok .done ∧
    ∃ row, s.exchanges.get? m.exchange = some row ∧ s.Performs m.action m.exchange row t

section Decided
variable (dated : ∀ x row, s.exchanges.get? x = some row → row.Dated)
include dated

/-- The method, applied to the exchange that is read, goes by the rules. -/
theorem verdict_cases (m : Move) :
    (∃ f, Failure.first (m.rules s) = some f ∧ m.verdict s = .error f) ∨
      Failure.first (m.rules s) = none ∧ ∃ row e e', s.exchanges.get? m.exchange = some row ∧
        s.exchange? m.exchange = .ok (some e) ∧ e.move m.action m.actor s.clock = .ok e' := by
  obtain ⟨a, x, actor⟩ := m
  by_cases hid : x ≤ 0
  · exact .inl ⟨.invalidId, by simp [rules, hid], by simp [verdict, load, hid, Except.bind]⟩
  cases hrow : s.exchanges.get? x with
  | none =>
    exact .inl ⟨.exchangeNotFound x, by simp [rules, hid, hrow], by
      simp [verdict, load, hid, Store.exchange?, hrow, Except.bind]⟩
  | some row =>
    obtain ⟨status, hs, -⟩ := dated x row hrow
    obtain ⟨e, hread, hstatus, hterms⟩ :
        ∃ e, s.exchange? x = .ok (some e) ∧ e.status = status ∧ e.terms = row.terms :=
      ⟨_, Store.exchange?_eq_some.mpr ⟨row, status, hrow, hs, rfl⟩, rfl, rfl⟩
    have hverdict : verdict ⟨a, x, actor⟩ s = e.move a actor s.clock :=
      verdict_of_exchange? hread a actor
    by_cases hsource : e.status = a.source
    · have hsource' : row.status = .known a.source := by rw [hs, ← hstatus, hsource]
      cases hallows : a.allows e.terms actor with
      | false =>
        exact .inl ⟨.forbidden, by simp [rules, hid, hrow, hsource', ← hterms, hallows],
          hverdict.trans (Exchange.move_of_not_allows hsource hallows)⟩
      | true =>
        obtain ⟨e', hmove⟩ := Exchange.exists_move_of_allows hsource hallows s.clock
        exact .inr ⟨by simp [rules, hid, hrow, hsource', ← hterms, hallows], row, e, e', rfl, hread,
          hmove⟩
    · exact .inl ⟨a.refusal, by simp [rules, hid, hrow, hs, ← hstatus, hsource],
        hverdict.trans (Exchange.move_of_status_ne hsource)⟩

theorem decided (unlocked : s.locked = false) (backed : s.Backed) (consistent : s.Consistent)
    (summarize : String → String) (m : Move) :
    m.Decided s ((m.command summarize).answer s) ((m.command summarize).after s) := by
  have houtcome : outcome (m.command summarize).perform s = _ := outcome_command unlocked backed
  obtain ⟨f, hfirst, hverdict⟩ | ⟨hfirst, row, e, e', hrow, hread, hmove⟩ := verdict_cases dated m
  · rw [hverdict] at houtcome
    refine ⟨fun f' hf' => ?_, fun hfree => by simp [hfirst] at hfree⟩
    cases hfirst.symm.trans hf'
    exact ⟨congrArg Prod.fst houtcome, congrArg Prod.snd houtcome⟩
  · rw [verdict_eq_ok.mpr ⟨e, hread, hmove⟩] at houtcome
    have hafter : (m.command summarize).after s = s.moved m.action e' := congrArg Prod.snd houtcome
    refine ⟨fun f' hf' => by simp [hfirst] at hf', fun _ => ⟨congrArg Prod.fst houtcome, row, hrow, ?_⟩⟩
    rw [hafter]
    exact Store.performs_moved consistent hrow (dated _ row hrow) hread hmove

end Decided

end Move

/-- In every store that services and racing callers have led to, a transition is decided by its rules
alone and, once they let it pass, does all that it should and nothing else. -/
theorem Run.moves_decided {log : List Event} (run : Run Command.Raced .fresh log s)
    (summarize : String → String) (m : Move) :
    m.Decided s ((m.command summarize).answer s) ((m.command summarize).after s) :=
  m.decided (fun _ => run.dated) run.unlocked run.backed run.consistent summarize

/-- After the acceptance the recipient cannot cancel any more, and the initiator completes. -/
theorem Run.moves_decided_acceptance :
    (Command.service id (.cancelExchange 1 2)).answer (follow .fresh acceptance).2 =
        .error .notPending ∧
      (Command.service id (.completeExchange 1 1)).answer (follow .fresh acceptance).2 = .ok .done ∧
      ∃ row, (follow .fresh acceptance).2.exchanges.get? 1 = some row ∧
        (follow .fresh acceptance).2.Performs .complete 1 row
          ((Command.service id (.completeExchange 1 1)).after (follow .fresh acceptance).2) := by
  have hraced : ∀ stores, ∀ c ∈ acceptance, c.Raced stores := by
    simp [acceptance, opening, Command.Raced]
  have run : Run Command.Raced .fresh (follow .fresh acceptance).1 (follow .fresh acceptance).2 :=
    Run.of_follow .start hraced
  have hcancel := run.moves_decided id ⟨.cancel, 1, 2⟩
  have hcomplete := run.moves_decided id ⟨.complete, 1, 1⟩
  exact ⟨(hcancel.refused .notPending (by decide +kernel)).1, hcomplete.done (by decide +kernel)⟩

end Market

end BookExchange
