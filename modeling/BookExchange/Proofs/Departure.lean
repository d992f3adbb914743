import BookExchange.Proofs.Decisions
import BookExchange.Proofs.Ledger

/-! What becomes of users who ask to be deleted. The service looks through the user's exchanges, and
behind it the store looks once more, in words of its own; both look for an active exchange that names
the user, and see the same. Whoever is in none has no book that is reserved: the books go without a
look at their status. -/
namespace BookExchange
open Call

namespace Store
variable {s t : Store} {u : UserId}

/-- The store's own look. -/
theorem hasActiveExchange_iff : s.hasActiveExchange u ↔ s.InExchange u := by
  constructor
  · intro h
    obtain ⟨⟨x, row⟩, hentry, hrow⟩ := List.any_eq_true.mp h
    simp only [Bool.and_eq_true, ExchangeRow.names, Bool.or_eq_true, beq_iff_eq] at hrow
    exact ⟨x, row.terms, ⟨row, Table.mem_entries.mp hentry, hrow.2, rfl⟩, hrow.1⟩
  · exact InExchange.busy

instance (s : Store) (u : UserId) : Decidable (s.InExchange u) :=
  decidable_of_iff _ hasActiveExchange_iff

/-- The service's look: it reads all exchanges of the user. -/
theorem any_exchangesOf (dated : ∀ x row, s.exchanges.get? x = some row → row.Dated) (u : UserId) :
    ∃ es, s.exchangesOf u none = .ok es ∧ es.any (·.status.isActive) = s.hasActiveExchange u := by
  refine ⟨_, exchangesOf_eq dated u none, ?_⟩
  have hactive : ∀ r ∈ s.involving u none,
      (exchangeOf r).status.isActive = r.2.isActive := by
    intro r hr
    obtain ⟨status, hs, -⟩ := dated r.1 r.2 (Table.mem_entries.mp (List.mem_filter.mp hr).1)
    simp [exchangeOf_eq (x := r.1) hs, ExchangeRow.isActive, hs]
  calc (((s.involving u none).mergeSort newer).map exchangeOf).any (·.status.isActive)
      = ((s.involving u none).map exchangeOf).any (·.status.isActive) :=
        ((List.mergeSort_perm _ _).map _).any_eq
    _ = (s.involving u none).any (·.2.isActive) := by
        rw [List.any_map, Bool.eq_iff_iff, List.any_eq_true, List.any_eq_true]
        exact exists_congr fun r => and_congr_right fun hr => by simp [hactive r hr]
    _ = s.hasActiveExchange u := by
        simp [involving, hasActiveExchange, List.any_filter]

/-- The user is deleted and so are the live books that the user owns, all of them available; nothing
else happens. -/
structure Removes (s : Store) (u : UserId) (t : Store) : Prop where
  user : ∃ row at?, s.users.get? u = some row ∧ row.isLive ∧
    t.users.get? u = some { row with deletedAt := some at? }
  otherUsers : ∀ v, v ≠ u → t.users.get? v = s.users.get? v
  books : ∀ b row, s.books.get? b = some row → row.isLive → row.owner = u →
    row.status = .known .available ∧ ∃ at?, t.books.get? b = some { row with deletedAt := some at? }
  otherBooks : ∀ b, (∀ row, s.books.get? b = some row → ¬ (row.isLive ∧ row.owner = u)) →
    t.books.get? b = s.books.get? b
  numbers : t.users.nextId = s.users.nextId ∧ t.books.nextId = s.books.nextId
  /-- No other table has changed. -/
  rest : t = { s with users := t.users, books := t.books, clock := t.clock }

/-- The guard of the removal keeps reserved books from it: their owners are in active exchanges. -/
theorem removes_of_writes (keyed : s.Keyed) (consistent : s.Consistent)
    (h : (Market.Port.removeUser u).Writes s t) : s.Removes u t := by
  cases h with
  | @removeUser id row found live idle =>
    constructor
    · exact ⟨row, s.clock, found, live, by simp [Table.get?_modify, found, UserRow.remove]⟩
    · intro v hv
      simp [Table.get?_modify, hv]
    · intro b book hbook hlive howner
      refine ⟨?_, s.clock + 1, by simp [Table.get?_map, hbook, BookRow.withdraw, hlive, howner]⟩
      obtain ⟨status, hstatus⟩ := (keyed.books b book hbook).1.status
      cases status with
      | available => exact hstatus
      | reserved =>
        have hbusy := consistent.busy hbook hstatus
        simp [howner, idle] at hbusy
    · intro b hb
      rw [Table.get?_map]
      cases hbook : s.books.get? b with
      | none => rfl
      | some book =>
        have hother : ¬ (book.owner = u ∧ book.isLive) := fun h => hb book hbook h.symm
        simp [BookRow.withdraw, hother]
    · simp
    · rfl

theorem removeUser_of_none (unlocked : s.locked = false) (h : s.liveUser? u = none) :
    outcome (removeUser u) s = (.error (.userNotFound u), s) := by
  simp [removeUser, outcome_transaction, outcome_bind, Call.update, outcome_write, unlocked, h]

theorem removeUser_of_busy {row : UserRow} (unlocked : s.locked = false)
    (found : s.liveUser? u = some row) (busy : s.hasActiveExchange u = true) :
    outcome (removeUser u) s = (.error .userHasActiveExchanges, s) := by
  simp [removeUser, outcome_transaction, outcome_bind, Call.update, outcome_write, unlocked, found,
    busy]

end Store

namespace Market
variable {s t : Store} {u actor : UserId}

/-- The rules for a user's deletion in their order. -/
def departureRules (s : Store) (u actor : UserId) : List (Bool × Failure) :=
  [(u != actor, .forbidden),
    ((s.user? u).isNone, .userNotFound u),
    (decide (s.InExchange u), .userHasActiveExchanges)]

/-- What becomes of a user whose deletion is asked for. -/
structure Departure (s : Store) (u actor : UserId) (summarize : String → String) : Prop where
  /-- The first rule that applies refuses, and the store stays as it is. -/
  refused (f : Failure) (first : Failure.first (departureRules s u actor) = some f) :
    (Command.service summarize (.deleteUser u actor)).answer s = .error f ∧
      (Command.service summarize (.deleteUser u actor)).after s = s
  /-- Where none applies the user goes with the books. -/
  done (free : Failure.first (departureRules s u actor) = none) :
    (Command.service summarize (.deleteUser u actor)).answer s = .ok .done ∧
      s.Removes u ((Command.service summarize (.deleteUser u actor)).after s)
  /-- The service finds an active exchange of the user exactly when there is one, -/
  scanned : ∃ es, s.exchangesOf u none = .ok es ∧ (es.any (·.status.isActive) ↔ s.InExchange u)
  /-- and the store's guard does; -/
  guarded : s.hasActiveExchange u ↔ s.InExchange u
  /-- without the service's look before it, the store decides the same. -/
  alone : (Command.port (.removeUser u)).answer s =
      (Command.service summarize (.deleteUser u u)).answer s ∧
    (Command.port (.removeUser u)).after s = (Command.service summarize (.deleteUser u u)).after s

/-- Behind the rule on the actor the service adds nothing to what the store decides. -/
theorem outcome_deleteUser (dated : ∀ x row, s.exchanges.get? x = some row → row.Dated)
    (unlocked : s.locked = false) (u : UserId) :
    outcome (deleteUser u u) s = outcome (Store.removeUser u) s := by
  obtain ⟨es, hes, hany⟩ := Store.any_exchangesOf dated u
  cases hlive : s.liveUser? u with
  | none =>
    have huser : s.user? u = none := by simp [Store.user?, hlive]
    simp [deleteUser, getUser, outcome_bind, huser, Store.removeUser_of_none unlocked hlive]
  | some row =>
    have huser : s.user? u = some (row.view u) := by simp [Store.user?, hlive]
    cases hbusy : s.hasActiveExchange u with
    | true =>
      simp [deleteUser, getUser, outcome_bind, huser, hes,
        Store.removeUser_of_busy unlocked hlive hbusy]
    | false =>
      have hidle : ¬ ∃ e ∈ es, e.status.isActive = true := by
        rw [← List.any_eq_true, hany, hbusy]
        decide
      simp [deleteUser, getUser, outcome_bind, huser, hes, hidle]

theorem outcome_removeUser_cases (unlocked : s.locked = false) (u : UserId) :
    (∃ f, Failure.first (departureRules s u u) = some f ∧
        outcome (Store.removeUser u) s = (.error f, s)) ∨
      Failure.first (departureRules s u u) = none ∧
        ∃ t, outcome (Store.removeUser u) s = (.ok (), t) := by
  cases hlive : s.liveUser? u with
  | none =>
    exact .inl ⟨.userNotFound u, by simp [departureRules, Store.user?, hlive],
      Store.removeUser_of_none unlocked hlive⟩
  | some row =>
    cases hbusy : s.hasActiveExchange u with
    | true =>
      have hin := Store.hasActiveExchange_iff.mp hbusy
      exact .inl ⟨.userHasActiveExchanges, by simp [departureRules, Store.user?, hlive, hin],
        Store.removeUser_of_busy unlocked hlive hbusy⟩
    | false =>
      have hin : ¬ s.InExchange u := fun h => by simp [h.busy] at hbusy
      obtain ⟨found, live⟩ := Store.liveUser?_eq_some.mp hlive
      exact .inr ⟨by simp [departureRules, Store.user?, hlive, hin], _,
        Store.removeUser_eq_ok.mpr ⟨unlocked, row, found, live, hbusy, rfl⟩⟩

theorem departure (dated : ∀ x row, s.exchanges.get? x = some row → row.Dated)
    (unlocked : s.locked = false) (keyed : s.Keyed) (consistent : s.Consistent) (u actor : UserId)
    (summarize : String → String) : Departure s u actor summarize := by
  have hself : outcome (perform summarize (.deleteUser u u)) s =
      outcome (Port.removeUser u).perform s := by
    simp only [perform, Port.perform, outcome_bind, outcome_deleteUser dated unlocked]
  obtain ⟨es, hes, hany⟩ := Store.any_exchangesOf dated u
  refine ⟨fun f first => ?_, fun free => ?_, ⟨es, hes, ?_⟩, Store.hasActiveExchange_iff, ?_⟩
  · by_cases hactor : u = actor
    · subst hactor
      obtain ⟨f', first', hrun⟩ | ⟨free, -⟩ := outcome_removeUser_cases unlocked u
      · cases first.symm.trans first'
        refine Command.outcome_perform.mp (hself.trans ?_)
        simp [Port.perform, outcome_map, hrun]
      · simp [first] at free
    · obtain rfl : Failure.forbidden = f := by simpa [departureRules, hactor] using first
      refine Command.outcome_perform.mp ?_
      simp [perform, deleteUser, hactor]
  · obtain rfl : u = actor := by
      by_contra hactor
      simp [departureRules, hactor] at free
    obtain ⟨f, first, -⟩ | ⟨-, t, hrun⟩ := outcome_removeUser_cases unlocked u
    · simp [first] at free
    · have hdone : outcome (perform summarize (.deleteUser u u)) s = (.ok .done, t) := by
        rw [hself]
        simp [Port.perform, outcome_map, hrun]
      obtain ⟨hanswer, rfl⟩ := Command.outcome_perform.mp hdone
      exact ⟨hanswer, Store.removes_of_writes keyed consistent (Port.writes_removeUser hrun)⟩
  · rw [hany, Store.hasActiveExchange_iff]
  · have hport := Command.outcome_perform.mp hself
    exact ⟨hport.1.symm, hport.2.symm⟩

/-- In every store that services and racing callers have led to, a user's deletion is decided by its
rules alone, and the two looks at the user's exchanges never differ. -/
theorem Run.departures_decided {log : List Event} (run : Run Command.Raced .fresh log s)
    (u actor : UserId) (summarize : String → String) : Departure s u actor summarize :=
  departure (fun _ => run.dated) run.unlocked run.keyed run.consistent u actor summarize

/-- With an exchange pending the first user has to stay; the second one cannot delete the account
either. Once the exchange is completed the first user goes, and with the user the book got for it. -/
theorem Run.departures_decided_completion :
    (Command.service id (.deleteUser 1 1)).answer (follow .fresh opening).2 =
        .error .userHasActiveExchanges ∧
      (Command.service id (.deleteUser 1 2)).answer (follow .fresh opening).2 = .error .forbidden ∧
      (Command.service id (.deleteUser 1 1)).answer (follow .fresh completion).2 = .ok .done ∧
      (follow .fresh completion).2.Removes 1
        ((Command.service id (.deleteUser 1 1)).after (follow .fresh completion).2) := by
  have hself := run_opening.departures_decided 1 1 id
  have hother := run_opening.departures_decided 1 2 id
  have hlater := run_completion.departures_decided 1 1 id
  exact ⟨(hself.refused .userHasActiveExchanges (by decide +kernel)).1,
    (hother.refused .forbidden (by decide +kernel)).1, hlater.done (by decide +kernel)⟩

end Market

end BookExchange
