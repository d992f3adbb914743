import BookExchange.Proofs.Atomicity
import BookExchange.Proofs.Contention
import BookExchange.Proofs.Decisions
import BookExchange.Proofs.Keys

/-! What becomes of a proposal. The service tries its rules in their order, and the first that applies
refuses the proposal. Behind it the store has guards of its own, which look at the same rows: what the
service lets pass they let pass, and the foreign keys and the check have nothing to object to. -/
namespace BookExchange
open Call

namespace Store

/-- The exchange is opened with the proposal's terms, and nothing else is done. -/
structure Grants (s : Store) (p : Exchange.Proposal) (e : Exchange) (t : Store) : Prop where
  answered : e.id = s.exchanges.nextId ∧ e.terms = p ∧ e.status = .pending ∧ e.completedAt = none
  exchange : t.exchanges.get? e.id = some (p.row e.createdAt)
  otherExchanges : ∀ y, y ≠ e.id → t.exchanges.get? y = s.exchanges.get? y
  /-- Two books were free and are reserved; no other book has changed. -/
  distinct : p.initiatorBook ≠ p.recipientBook
  books : s.Reserves t p.Names
  numbers : t.exchanges.nextId = s.exchanges.nextId + 1 ∧ t.books.nextId = s.books.nextId
  /-- No other table has changed. -/
  rest : t = { s with exchanges := t.exchanges, books := t.books, clock := t.clock }

variable {s t : Store} {p : Exchange.Proposal}

/-- What the port makes sure of is all that it asks for. -/
theorem grants_of_writes (unlocked : s.locked = false)
    (hw : (Market.Port.insertExchange p).Writes s t) :
    ∃ e, outcome (insertExchange p) s = (.ok e, t) ∧ s.Grants p e t := by
  have hbooks := reserves_of_writes hw
  refine ⟨_, insertExchange_of_writes unlocked hw, ?_⟩
  cases hw with
  | insertExchange _ _ _ _ _ _ distinct =>
    constructor
    · exact ⟨rfl, rfl, rfl, rfl⟩
    · simp [Table.get?_insert]
    · intro y hy
      simp [Table.get?_insert, hy]
    · exact distinct
    · exact hbooks
    · simp
    · rfl

end Store

namespace Market
variable {s t : Store} {initiator : UserId} {r : Exchange.Request}

/-- The rules for a proposal in their order. -/
def proposalRules (s : Store) (initiator : UserId) (r : Exchange.Request) : List (Bool × Failure) :=
  let mine? := s.liveBook? r.initiatorBook
  let theirs? := s.liveBook? r.recipientBook
  [(initiator == r.recipient, .sameParty),
    (mine?.isNone, .bookNotFound r.initiatorBook),
    (theirs?.isNone, .bookNotFound r.recipientBook),
    (mine?.any (·.owner != initiator), .initiatorNotOwner),
    (theirs?.any (·.owner != r.recipient), .recipientNotOwner),
    (mine?.any (·.status != .known .available), .initiatorBookUnavailable),
    (theirs?.any (·.status != .known .available), .recipientBookUnavailable)]

/-- The first rule that applies refuses the proposal, and the store stays as it is. Where none applies
the exchange is opened. -/
structure Answered (s : Store) (initiator : UserId) (r : Exchange.Request)
    (answer : Except Failure Answer) (t : Store) : Prop where
  refused (f : Failure) (first : Failure.first (proposalRules s initiator r) = some f) :
    answer = .error f ∧ t = s
  opened (free : Failure.first (proposalRules s initiator r) = none) :
    ∃ e, answer = .ok (.exchange e) ∧
      s.Grants ⟨initiator, r.recipient, r.initiatorBook, r.recipientBook⟩ e t

/-- A live book is read with the owner and the status of its row. -/
theorem requireBook_of_live {b : BookId} {row : BookRow} (found : s.liveBook? b = some row)
    (sound : row.Sound) : ∃ book, outcome (requireBook b) s = (.ok book, s) ∧ book.id = b ∧
      book.owner = row.owner ∧ row.status = .known book.status := by
  obtain ⟨status, hs⟩ := sound.status
  have hread : s.book? b = .ok (some ⟨b, row.title, row.author, row.description, row.summary, status,
      row.owner, row.createdAt, row.updatedAt, s.genresOf b⟩) := by
    rw [Store.book?_of_some found, BookRow.view, hs]
    rfl
  refine ⟨⟨b, row.title, row.author, row.description, row.summary, status, row.owner, row.createdAt,
    row.updatedAt, s.genresOf b⟩, ?_, rfl, rfl, hs⟩
  simp [requireBook, outcome_bind, hread]

theorem requireBook_of_none {b : BookId} (h : s.liveBook? b = none) :
    outcome (requireBook b) s = (.error (.bookNotFound b), s) := by
  simp [requireBook, outcome_bind, Store.book?_of_none h]

/-- The service goes by the rules, and leaves to the store what they let pass. -/
theorem createExchange_cases (keyed : s.Keyed) (initiator : UserId) (r : Exchange.Request) :
    (∃ f, Failure.first (proposalRules s initiator r) = some f ∧
        outcome (createExchange initiator r) s = (.error f, s)) ∨
      Failure.first (proposalRules s initiator r) = none ∧ initiator ≠ r.recipient ∧
        ∃ mine theirs, s.liveBook? r.initiatorBook = some mine ∧
          s.liveBook? r.recipientBook = some theirs ∧ mine.owner = initiator ∧
          theirs.owner = r.recipient ∧ mine.status = .known .available ∧
          theirs.status = .known .available ∧
          outcome (createExchange initiator r) s =
            outcome (Store.insertExchange
              ⟨initiator, r.recipient, r.initiatorBook, r.recipientBook⟩) s := by
  by_cases parties : initiator = r.recipient
  · exact .inl ⟨.sameParty, by simp [proposalRules, parties], by simp [createExchange, parties]⟩
  have hsound : ∀ {b row}, s.liveBook? b = some row → row.Sound := fun found =>
    (keyed.books _ _ (Store.liveBook?_eq_some.mp found).1).1
  cases hmine : s.liveBook? r.initiatorBook with
  | none =>
    refine .inl ⟨.bookNotFound r.initiatorBook, by simp [proposalRules, parties, hmine], ?_⟩
    simp [createExchange, outcome_bind, parties, requireBook_of_none hmine]
  | some mine =>
    obtain ⟨book, hread, hid, howner, hstatus⟩ := requireBook_of_live hmine (hsound hmine)
    cases htheirs : s.liveBook? r.recipientBook with
    | none =>
      refine .inl ⟨.bookNotFound r.recipientBook, by simp [proposalRules, parties, hmine, htheirs], ?_⟩
      simp [createExchange, outcome_bind, parties, hread, requireBook_of_none htheirs]
    | some theirs =>
      obtain ⟨book', hread', hid', howner', hstatus'⟩ := requireBook_of_live htheirs (hsound htheirs)
      -- From here on the rules look at the rows, and the service at the books that it has read.
      have hrules : Failure.first (proposalRules s initiator r) = Failure.first [
          (book.owner != initiator, .initiatorNotOwner),
          (book'.owner != r.recipient, .recipientNotOwner),
          (book.status != .available, .initiatorBookUnavailable),
          (book'.status != .available, .recipientBookUnavailable)] := by
        simp [proposalRules, parties, hmine, htheirs, howner, howner', hstatus, hstatus']
      have hservice : outcome (createExchange initiator r) s = outcome (do
          if book.owner ≠ initiator then throw .initiatorNotOwner
          if book'.owner ≠ r.recipient then throw .recipientNotOwner
          if book.status ≠ .available then throw .initiatorBookUnavailable
          if book'.status ≠ .available then throw .recipientBookUnavailable
          Store.insertExchange ⟨initiator, r.recipient, r.initiatorBook, r.recipientBook⟩) s := by
        simp [createExchange, outcome_bind, parties, hread, hread', hid, hid']
      rw [hrules, hservice]
      by_cases mineOwned : book.owner = initiator
      swap
      · exact .inl ⟨.initiatorNotOwner, by simp [mineOwned], by simp [mineOwned]⟩
      by_cases theirsOwned : book'.owner = r.recipient
      swap
      · exact .inl ⟨.recipientNotOwner, by simp [mineOwned, theirsOwned],
          by simp [mineOwned, theirsOwned]⟩
      by_cases mineFree : book.status = .available
      swap
      · exact .inl ⟨.initiatorBookUnavailable, by simp [mineOwned, theirsOwned, mineFree],
          by simp [mineOwned, theirsOwned, mineFree]⟩
      by_cases theirsFree : book'.status = .available
      swap
      · exact .inl ⟨.recipientBookUnavailable, by simp [mineOwned, theirsOwned, mineFree, theirsFree],
          by simp [mineOwned, theirsOwned, mineFree, theirsFree]⟩
      refine .inr ⟨by simp [mineOwned, theirsOwned, mineFree, theirsFree], parties, mine, theirs, rfl,
        rfl, howner ▸ mineOwned, howner' ▸ theirsOwned, mineFree ▸ hstatus, theirsFree ▸ hstatus', ?_⟩
      simp [mineOwned, theirsOwned, mineFree, theirsFree]

/-- The guards of the store let pass what the rules do. Books with different owners are different books,
and their owners have rows. -/
theorem exists_writes_insertExchange {mine theirs : BookRow} (keyed : s.Keyed)
    (parties : initiator ≠ r.recipient) (mineFound : s.liveBook? r.initiatorBook = some mine)
    (theirsFound : s.liveBook? r.recipientBook = some theirs) (mineOwned : mine.owner = initiator)
    (theirsOwned : theirs.owner = r.recipient) (mineFree : mine.status = .known .available)
    (theirsFree : theirs.status = .known .available) :
    ∃ t, (Port.insertExchange
      ⟨initiator, r.recipient, r.initiatorBook, r.recipientBook⟩).Writes s t := by
  obtain ⟨mineFound, mineLive⟩ := Store.liveBook?_eq_some.mp mineFound
  obtain ⟨theirsFound, theirsLive⟩ := Store.liveBook?_eq_some.mp theirsFound
  have hmine : mine.isFree := by simp [BookRow.isFree, mineFree, mineLive]
  have htheirs : theirs.isFree := by simp [BookRow.isFree, theirsFree, theirsLive]
  have hbooks : r.initiatorBook ≠ r.recipientBook := by
    intro heq
    rw [heq, theirsFound] at mineFound
    cases mineFound
    exact parties (mineOwned.symm.trans theirsOwned)
  have hknown := (keyed.books _ _ mineFound).2
  have hknown' := (keyed.books _ _ theirsFound).2
  rw [mineOwned] at hknown
  rw [theirsOwned] at hknown'
  exact ⟨_, .insertExchange mineFound mineOwned hmine theirsFound theirsOwned htheirs hbooks parties
    ⟨hknown, hknown'⟩⟩

theorem answered (unlocked : s.locked = false) (keyed : s.Keyed) (summarize : String → String)
    (initiator : UserId) (r : Exchange.Request) :
    Answered s initiator r ((Command.service summarize (.createExchange initiator r)).answer s)
      ((Command.service summarize (.createExchange initiator r)).after s) := by
  have houtcome : outcome (Command.service summarize (.createExchange initiator r)).perform s =
      outcome (Answer.exchange <$> createExchange initiator r) s := rfl
  obtain ⟨f, hfirst, hservice⟩ | ⟨hfirst, parties, mine, theirs, mineFound, theirsFound, mineOwned,
    theirsOwned, mineFree, theirsFree, hservice⟩ := createExchange_cases keyed initiator r
  · simp only [outcome_map, hservice] at houtcome
    refine ⟨fun f' hf' => ?_, fun hfree => by simp [hfirst] at hfree⟩
    cases hfirst.symm.trans hf'
    exact ⟨congrArg Prod.fst houtcome, congrArg Prod.snd houtcome⟩
  · obtain ⟨t, hw⟩ := exists_writes_insertExchange keyed parties mineFound theirsFound mineOwned
      theirsOwned mineFree theirsFree
    obtain ⟨e, hstore, hgrants⟩ := Store.grants_of_writes unlocked hw
    simp only [outcome_map, hservice, hstore] at houtcome
    have hafter : (Command.service summarize (.createExchange initiator r)).after s = t :=
      congrArg Prod.snd houtcome
    refine ⟨fun f' hf' => by simp [hfirst] at hf', fun _ => ⟨e, congrArg Prod.fst houtcome, ?_⟩⟩
    rwa [hafter]

/-- In every store that services and racing callers have led to, a proposal is answered by its rules
alone: what they let pass the store never refuses. -/
theorem Run.proposals_answered {log : List Event} (run : Run Command.Raced .fresh log s)
    (summarize : String → String) (initiator : UserId) (r : Exchange.Request) :
    Answered s initiator r ((Command.service summarize (.createExchange initiator r)).answer s)
      ((Command.service summarize (.createExchange initiator r)).after s) :=
  answered run.unlocked run.keyed summarize initiator r

/-- Nobody can bring a book to both sides of an exchange; a proposal of two free books is granted. -/
theorem Run.proposals_answered_fourCommands :
    (Command.service id (.createExchange 1 ⟨2, 1, 1⟩)).answer (follow .fresh (opening.take 4)).2 =
        .error .recipientNotOwner ∧
      ∃ e, (Command.service id (.createExchange 1 ⟨2, 1, 2⟩)).answer
          (follow .fresh (opening.take 4)).2 = .ok (.exchange e) ∧
        (follow .fresh (opening.take 4)).2.Grants ⟨1, 2, 1, 2⟩ e
          ((Command.service id (.createExchange 1 ⟨2, 1, 2⟩)).after
            (follow .fresh (opening.take 4)).2) := by
  have hraced : ∀ stores, ∀ c ∈ opening.take 4, c.Raced stores := by simp [opening, Command.Raced]
  have run : Run Command.Raced .fresh (follow .fresh (opening.take 4)).1
      (follow .fresh (opening.take 4)).2 := Run.of_follow .start hraced
  have hsame := run.proposals_answered id 1 ⟨2, 1, 1⟩
  have hfree := run.proposals_answered id 1 ⟨2, 1, 2⟩
  exact ⟨(hsame.refused .recipientNotOwner (by decide +kernel)).1, hfree.opened (by decide +kernel)⟩

end Market

end BookExchange
