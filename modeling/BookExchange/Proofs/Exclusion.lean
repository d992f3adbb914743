import BookExchange.Proofs.Erasure
import BookExchange.Proofs.Reservation

/-! A book is reserved by one caller at a time, whatever is called and with whatever values. The
statements that reserve a book have seen it available, and only a release makes a reserved book
available again; of the exchanges nothing is asked here, for they need not fit their books. -/
namespace BookExchange
open Call

namespace Store
variable {s t : Store} {b : BookId}

theorem isReserved_withdraw {owner : UserId} {now : Time}
    (hbooks : t.books = s.books.map (.withdraw owner now)) (reserved : s.IsReserved b) :
    t.IsReserved b := by
  obtain ⟨book, found, hs⟩ := reserved
  refine ⟨book.withdraw owner now, by simp [hbooks, Table.get?_map, found], ?_⟩
  rw [BookRow.withdraw]
  split <;> exact hs

theorem requireStatus_eq (s : Store) (b : BookId) :
    s.requireStatus b = match (s.liveBook? b).map (·.status) with
      | none => .error (.bookNotFound b)
      | some status => status.decode Book.Status.unknown := by
  cases hlive : s.liveBook? b with
  | none => simp [requireStatus, statusOf, hlive, bind, Except.bind, throw, throwThe, MonadExceptOf.throw]
  | some row =>
    cases hs : row.status <;>
      simp [requireStatus, statusOf, hlive, hs, Stored.decode, bind, Except.bind, pure, Except.pure]

/-- A book that cannot be reserved is looked at for the reason. -/
theorem outcome_reserve_of_taken (unlocked : s.locked = false)
    (taken : ∀ row, s.books.get? b = some row → row.isFree = false) :
    outcome (reserve b) s = (s.requireStatus b >>= fun _ => .error (.alreadyReserved b), s) := by
  have hupdate : outcome (updateBook b (·.isFree) .reserve) s = (.ok false, s) :=
    update_eq_false.mpr ⟨unlocked, rfl, taken⟩
  rw [reserve, outcome_bind, hupdate]
  cases hs : s.requireStatus b <;> simp [outcome_bind, hs] <;> rfl

/-- The status of the book decides; one that cannot be read is reported. -/
theorem outcome_reserve (unlocked : s.locked = false) (b : BookId) :
    outcome (reserve b) s = match (s.liveBook? b).map (·.status) with
      | none => (.error (.bookNotFound b), s)
      | some (.known .available) => (.ok (), s.setBook b .reserve)
      | some (.known .reserved) => (.error (.alreadyReserved b), s)
      | some (.unknown text) => (.error (Book.Status.unknown text), s) := by
  cases hlive : s.liveBook? b with
  | none =>
    have taken (row : BookRow) (found : s.books.get? b = some row) : row.isFree = false := by
      simp_all [liveBook?, BookRow.isFree]
    rw [outcome_reserve_of_taken unlocked taken, requireStatus_eq, hlive]
    rfl
  | some row =>
    obtain ⟨found, live⟩ := liveBook?_eq_some.mp hlive
    by_cases free : row.status = .known .available
    · rw [Option.map_some, free]
      exact reserve_eq_ok.mpr ⟨unlocked, row, found, by simp [BookRow.isFree, free, live], rfl⟩
    · have taken (row' : BookRow) (found' : s.books.get? b = some row') : row'.isFree = false := by
        cases found.symm.trans found'
        simp [BookRow.isFree, free]
      rw [outcome_reserve_of_taken unlocked taken, requireStatus_eq, hlive, Option.map_some]
      cases hs : row.status with
      | unknown text => rfl
      | known status =>
        cases status with
        | available => exact absurd hs free
        | reserved => rfl

end Store

namespace Market
variable {allowed : List Store → Command → Prop} {start s t : Store} {log : List Event}
  {p : Port} {c : Command} {v : Event} {b : BookId}

/-- The port reserves the book when it succeeds. -/
def Port.Takes (b : BookId) : Port → Prop
  | .reserve id => id = b
  | .insertExchange p => p.Names b
  | _ => False

/-- The port releases the book when it succeeds. -/
def Port.Frees (b : BookId) : Port → Prop
  | .release id => id = b
  | .completeExchange e | .cancelExchange e => e.terms.Names b
  | _ => False

/-- The command reserves the book when it succeeds. -/
def Command.Takes (b : BookId) : Command → Prop
  | .service _ (.createExchange _ r) => r.initiatorBook = b ∨ r.recipientBook = b
  | .service _ _ => False
  | .port p => p.Takes b

/-- The command, given to `s`, releases the book when it succeeds; a service goes by the exchange as
it reads it. -/
def Command.Frees (s : Store) (b : BookId) : Command → Prop
  | .service _ (.completeExchange id _) | .service _ (.cancelExchange id _) =>
    ∃ e, s.exchange? id = .ok (some e) ∧ e.terms.Names b
  | .service _ _ => False
  | .port p => p.Frees b

/-- The book was reserved. -/
def Event.Reserves (v : Event) (b : BookId) : Prop :=
  (∃ a, v.answer = .ok a) ∧ v.command.Takes b

/-- The book was released. -/
def Event.Releases (v : Event) (b : BookId) : Prop :=
  (∃ a, v.answer = .ok a) ∧ v.command.Frees v.store b

theorem Command.Calls.takes_iff (h : c.Calls s p) : p.Takes b ↔ c.Takes b := by
  cases h with
  | port => exact .rfl
  | service reached =>
    cases reached with
    | createExchange parties mineFound theirsFound =>
      simp only [Port.Takes, Command.Takes, Exchange.Proposal.Names, Store.id_of_book? mineFound,
        Store.id_of_book? theirsFound]
    | _ => exact .rfl

theorem Command.Calls.frees_iff (h : c.Calls s p) : p.Frees b ↔ c.Frees s b := by
  cases h with
  | port => exact .rfl
  | service reached =>
    cases reached with
    | completeExchange positive found completed =>
      obtain ⟨-, -, rfl⟩ := Exchange.complete_eq_ok.mp completed
      simp [Port.Frees, Command.Frees, found, Exchange.terms]
    | cancelExchange positive found cancelled =>
      obtain ⟨-, -, rfl⟩ := Exchange.cancel_eq_ok.mp cancelled
      simp [Port.Frees, Command.Frees, found, Exchange.terms]
    | _ => exact .rfl

theorem Command.not_takes_of_isQuery (query : c.isQuery) : ¬ c.Takes b := by
  cases c with
  | port p => cases query
  | service summarize op =>
    cases op with
    | createExchange => cases query
    | _ => exact id

/-- A reservation has found the book available. -/
theorem Port.Writes.takes (h : p.Writes s t) (takes : p.Takes b) :
    ¬ s.IsReserved b ∧ t.IsReserved b := by
  cases h with
  | reserve found free =>
    cases takes
    exact ⟨Store.not_isReserved_of_isFree found free,
      Store.isReserved_reserve.mpr (.inr ⟨rfl, by simp [found]⟩)⟩
  | @insertExchange q mine theirs mineFound mineOwned mineFree theirsFound theirsOwned theirsFree =>
    obtain rfl | rfl := takes
    · have hmine : (s.setBook q.initiatorBook .reserve).IsReserved q.initiatorBook :=
        Store.isReserved_reserve.mpr (.inr ⟨rfl, by simp [mineFound]⟩)
      exact ⟨Store.not_isReserved_of_isFree mineFound mineFree,
        Store.isReserved_reserve.mpr (.inl hmine)⟩
    · have found : ((s.setBook q.initiatorBook .reserve).books.get? q.recipientBook).isSome := by
        rw [Store.isSome_setBook, theirsFound, Option.isSome_some]
      exact ⟨Store.not_isReserved_of_isFree theirsFound theirsFree,
        Store.isReserved_reserve.mpr (.inr ⟨rfl, found⟩)⟩
  | _ => cases takes

/-- Nothing but a release makes a reserved book available. -/
theorem Port.Writes.reserved_kept (h : p.Writes s t) (keeps : ¬ p.Frees b)
    (reserved : s.IsReserved b) : t.IsReserved b := by
  cases h with
  | removeUser => exact Store.isReserved_withdraw rfl reserved
  | insertBook =>
    obtain ⟨book, found, hs⟩ := reserved
    have hne : b ≠ s.books.nextId := Int.ne_of_lt (Table.lt_nextId found)
    exact ⟨book, by simp [Table.get?_insert, hne, found], hs⟩
  | @describe _ description =>
    exact (Store.isReserved_setBook (.describe description) fun _ _ => rfl).mpr reserved
  | removeBook => exact (Store.isReserved_setBook .remove fun _ _ => rfl).mpr reserved
  | reserve => exact Store.isReserved_reserve.mpr (.inl reserved)
  | release => exact Store.isReserved_release.mpr ⟨reserved, fun hb => keeps hb.symm⟩
  | transfer => exact Store.isReserved_transfer.mpr reserved
  | insertExchange =>
    exact Store.isReserved_reserve.mpr (.inl (Store.isReserved_reserve.mpr (.inl reserved)))
  | @completeExchange e =>
    obtain ⟨hmine, htheirs⟩ := Exchange.Proposal.ne_of_not_names keeps
    have transferred : ((((s.setExchange e.id (.complete e.completedAt)).setBook e.initiatorBook
        (.transfer e.recipient)).setBook e.recipientBook (.transfer e.initiator))).IsReserved b :=
      Store.isReserved_transfer.mpr (Store.isReserved_transfer.mpr reserved)
    exact Store.isReserved_release.mpr ⟨Store.isReserved_release.mpr ⟨transferred, hmine⟩, htheirs⟩
  | cancelExchange =>
    obtain ⟨hmine, htheirs⟩ := Exchange.Proposal.ne_of_not_names keeps
    exact Store.isReserved_release.mpr ⟨Store.isReserved_release.mpr ⟨reserved, hmine⟩, htheirs⟩
  | _ => exact reserved

theorem Event.Reserves.taken (h : v.Reserves b) : ¬ v.store.IsReserved b ∧ v.after.IsReserved b := by
  obtain ⟨⟨a, answered⟩, takes⟩ := h
  obtain query | ⟨p, calls, hw⟩ := Command.writes_of_ok answered
  · exact absurd takes (Command.not_takes_of_isQuery query)
  · exact hw.takes (calls.takes_iff.mpr takes)

theorem Event.reserved_kept (kept : ¬ v.Releases b) (reserved : v.store.IsReserved b) :
    v.after.IsReserved b := by
  cases v.command.cases v.store with
  | fails failed unchanged => rwa [after, unchanged]
  | looks query unchanged => rwa [after, unchanged]
  | @writes p a calls answered =>
    have hanswer := congrArg Prod.fst ((Command.perform_of_calls calls).trans answered)
    have keeps : ¬ p.Frees b := fun frees => kept ⟨⟨a, hanswer⟩, calls.frees_iff.mp frees⟩
    exact (Port.writes_of_ok answered).reserved_kept keeps reserved
  | describes calls failed written unreadable => exact written.reserved_kept id reserved

/-- The last event led from its store to the end of the run. -/
theorem Run.concat_cases (run : Run allowed start (log ++ [v]) t) :
    Run allowed start log v.store ∧ t = v.after := by
  generalize hlog : log ++ [v] = whole at run
  cases run with
  | start => simp at hlog
  | step c run ok =>
    obtain ⟨rfl, hv⟩ := List.append_inj' hlog rfl
    cases hv
    exact ⟨run, rfl⟩

/-- The events before another make up a run to its store. -/
theorem Run.before {later : List Event} (run : Run allowed start (log ++ v :: later) t) :
    Run allowed start log v.store := by
  induction later using List.reverseRecOn generalizing t with
  | nil => exact run.concat_cases.1
  | append_singleton later w ih =>
    rw [← List.cons_append, ← List.append_assoc] at run
    exact ih run.concat_cases.1

/-- A book that was reserved and not released since is reserved. -/
theorem Run.reserved_since {since : List Event} (run : Run allowed start (log ++ v :: since) s)
    (reserves : v.Reserves b) (kept : ∀ w ∈ since, ¬ w.Releases b) : s.IsReserved b := by
  induction since using List.reverseRecOn generalizing s with
  | nil =>
    obtain ⟨-, rfl⟩ := run.concat_cases
    exact reserves.taken.2
  | append_singleton since w ih =>
    rw [← List.cons_append, ← List.append_assoc] at run
    obtain ⟨before, rfl⟩ := run.concat_cases
    exact Event.reserved_kept (kept w (by simp)) (ih before fun u hu => kept u (by simp [hu]))

theorem answer_reserve (s : Store) (b : BookId) :
    (Command.port (.reserve b)).answer s =
      (outcome (Store.reserve b) s).1.map fun _ => Answer.done := by
  have hanswer : (Command.port (.reserve b)).answer s =
      (outcome (do Store.reserve b; return Answer.done) s).1 := rfl
  rw [hanswer, outcome_bind]
  obtain ⟨_ | _, t⟩ := outcome (Store.reserve b) s <;> rfl

/-- Who has reserved the book keeps others out, until somebody releases it. -/
structure Exclusive (log : List Event) (s : Store) (b : BookId) : Prop where
  /-- Between two reservations of the book it was released. -/
  released (before between later : List Event) (v w : Event)
    (hlog : log = before ++ v :: (between ++ w :: later)) (first : v.Reserves b)
    (second : w.Reserves b) : ∃ u ∈ between, u.Releases b
  available (row : BookRow) (status : Book.Status) (found : s.liveBook? b = some row)
    (readable : row.status = .known status) :
    (∃ a, (Command.port (.reserve b)).answer s = .ok a) ↔ status = .available
  taken (row : BookRow) (status : Book.Status) (found : s.liveBook? b = some row)
    (readable : row.status = .known status) (unavailable : status ≠ .available) :
    (Command.port (.reserve b)).answer s = .error (.alreadyReserved b)
  missing (gone : s.liveBook? b = none) :
    (Command.port (.reserve b)).answer s = .error (.bookNotFound b)

/-- Whatever is called, and whatever the store held at first. -/
theorem Run.reservations_exclusive (run : Run allowed start log s)
    (unlocked : start.locked = false) (b : BookId) : Exclusive log s b := by
  have unlocked' : s.locked = false :=
    run.preserves (P := (·.locked = false)) unlocked fun t c ht => (c.after_locked t).trans ht
  constructor
  · intro before between later v w hlog first second
    subst hlog
    rw [← List.cons_append, ← List.append_assoc] at run
    by_contra kept
    have reserved := run.before.reserved_since first fun u hu released => kept ⟨u, hu, released⟩
    exact second.taken.1 reserved
  · intro row status found readable
    rw [answer_reserve, Store.outcome_reserve unlocked', found, Option.map_some, readable]
    cases status <;> simp [Except.map]
  · intro row status found readable unavailable
    rw [answer_reserve, Store.outcome_reserve unlocked', found, Option.map_some, readable]
    cases status with
    | available => exact absurd rfl unavailable
    | reserved => rfl
  · intro gone
    rw [answer_reserve, Store.outcome_reserve unlocked', gone]
    rfl

/-! The first book is reserved by an exchange. A cancellation that names the second book twice leaves
the first one reserved, so somebody releases it by hand before it is reserved again. -/

def stray : List Command :=
  opening ++
    [.port (.cancelExchange ⟨1, 1, 2, 2, 2, .pending, none, 6, 6⟩), .port (.reserve 1),
      .port (.transfer 1 2), .port (.release 1), .port (.reserve 1)]

theorem Run.reservations_exclusive_stray :
    (∃ u ∈ ((follow .fresh stray).1.drop 5).take 4, u.Releases 1) ∧
      (Command.port (.reserve 1)).answer (follow .fresh stray).2 = .error (.alreadyReserved 1) ∧
      (Command.port (.reserve 3)).answer (follow .fresh stray).2 = .error (.bookNotFound 3) := by
  let anything : List Store → Command → Prop := fun _ _ => True
  have hallowed : ∀ stores, ∀ c ∈ stray, anything stores c := fun _ _ _ => trivial
  have run : Run anything .fresh (follow .fresh stray).1 (follow .fresh stray).2 :=
    Run.of_follow .start hallowed
  let opened : Event :=
    ⟨(follow .fresh (stray.take 4)).2, .service id (.createExchange 1 ⟨2, 1, 2⟩)⟩
  let again : Event := ⟨(follow .fresh (stray.take 9)).2, .port (.reserve 1)⟩
  have hlog : (follow .fresh stray).1 = (follow .fresh stray).1.take 4 ++ opened ::
      (((follow .fresh stray).1.drop 5).take 4 ++ again :: []) := rfl
  have first : opened.Reserves 1 :=
    ⟨⟨.exchange ⟨1, 1, 2, 1, 2, .pending, none, 6, 6⟩, by decide +kernel⟩, .inl rfl⟩
  have second : again.Reserves 1 := ⟨⟨.done, by decide +kernel⟩, rfl⟩
  have reserved : ((follow .fresh stray).2.liveBook? 1).map (·.status) = some (.known .reserved) := by
    decide +kernel
  obtain ⟨row, found, hs⟩ := Option.map_eq_some_iff.mp reserved
  exact ⟨(run.reservations_exclusive rfl 1).released _ _ _ _ _ hlog first second,
    (run.reservations_exclusive rfl 1).taken row .reserved found hs (by decide),
    (run.reservations_exclusive rfl 3).missing (by decide +kernel)⟩

end Market

end BookExchange
