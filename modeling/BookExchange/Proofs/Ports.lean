import BookExchange.Market.Command
import BookExchange.Proofs.Statements

/-! What a port writes when it succeeds: `Port.Writes` says it once for every port, with all that the
port has made sure of, and each later property is a case analysis over it. A port that fails writes
nothing; the one exception is a description that is written to a book that cannot be read. -/
namespace BookExchange
open Text Call

namespace Market

/-- The port, called on `s`, leaves the last store. -/
inductive Port.Writes (s : Store) : Port → Store → Prop where
  | insertUser {r : User.Registration} (free : s.emailTaken (trim r.email) 0 = false) :
      Writes s (.insertUser r) { s with users := s.users.insert (r.row s.clock) }.tick
  | saveUser {u : User} {row : UserRow} (found : s.users.get? u.id = some row) (live : row.isLive)
      (free : s.emailTaken u.email u.id = false) :
      Writes s (.saveUser u) { s with users := s.users.modify u.id (.save u) }.tick
  | removeUser {id : UserId} {row : UserRow} (found : s.users.get? id = some row) (live : row.isLive)
      (idle : s.hasActiveExchange id = false) :
      Writes s (.removeUser id) { s with
        users := s.users.modify id (.remove s.clock)
        books := s.books.map (.withdraw id (s.clock + 1))
        clock := s.clock + 2 }
  | insertGenre {name : String} (free : s.genreTaken name = false) :
      Writes s (.insertGenre name) { s with genres := s.genres.insert ⟨name, s.clock⟩ }.tick
  | removeGenre {id : GenreId} {row : GenreRow} (found : s.genres.get? id = some row) :
      Writes s (.removeGenre id) { s with
        genres := s.genres.erase id, links := s.links.filter (·.2 ≠ id) }.tick
  | insertBook {e : Book.Entry} (known : (s.users.get? e.owner).isSome)
      {genres : List Genre} (filed : e.genres.mapM s.genre? = some genres) :
      Writes s (.insertBook e) { s with
        books := s.books.insert (e.row s.clock)
        links := s.links ++ e.genres.map (s.books.nextId, ·) }.tick
  | describe {id : BookId} {description : String} {row : BookRow}
      (found : s.books.get? id = some row) (live : row.isLive) :
      Writes s (.describe id description) (s.setBook id (.describe description))
  | removeBook {id : BookId} {row : BookRow} (found : s.books.get? id = some row)
      (free : row.isFree) : Writes s (.removeBook id) (s.setBook id .remove)
  | reserve {id : BookId} {row : BookRow} (found : s.books.get? id = some row)
      (free : row.isFree) : Writes s (.reserve id) (s.setBook id .reserve)
  | release {id : BookId} {row : BookRow} (found : s.books.get? id = some row) :
      Writes s (.release id) (s.setBook id .release)
  | transfer {id : BookId} {owner : UserId} {row : BookRow} (found : s.books.get? id = some row)
      (known : (s.users.get? owner).isSome) :
      Writes s (.transfer id owner) (s.setBook id (.transfer owner))
  | insertExchange {p : Exchange.Proposal} {mine theirs : BookRow}
      (mineFound : s.books.get? p.initiatorBook = some mine)
      (mineOwned : mine.owner = p.initiator) (mineFree : mine.isFree)
      (theirsFound : s.books.get? p.recipientBook = some theirs)
      (theirsOwned : theirs.owner = p.recipient) (theirsFree : theirs.isFree)
      (books : p.initiatorBook ≠ p.recipientBook) (parties : p.initiator ≠ p.recipient)
      (known : (s.users.get? p.initiator).isSome ∧ (s.users.get? p.recipient).isSome) :
      Writes s (.insertExchange p)
        { (s.setBook p.initiatorBook .reserve).setBook p.recipientBook .reserve with
          exchanges := s.exchanges.insert (p.row (s.clock + 2)) }.tick
  | acceptExchange {e : Exchange} {row : ExchangeRow} (found : s.exchanges.get? e.id = some row)
      (pending : row.status = .known .pending) :
      Writes s (.acceptExchange e) (s.setExchange e.id .accept)
  | completeExchange {e : Exchange} {row : ExchangeRow} {mine theirs : BookRow}
      (found : s.exchanges.get? e.id = some row) (accepted : row.status = .known .accepted)
      (mineFound : s.books.get? e.initiatorBook = some mine)
      (theirsFound : s.books.get? e.recipientBook = some theirs)
      (known : (s.users.get? e.initiator).isSome ∧ (s.users.get? e.recipient).isSome) :
      Writes s (.completeExchange e)
        (((((s.setExchange e.id (.complete e.completedAt)).setBook e.initiatorBook
          (.transfer e.recipient)).setBook e.recipientBook (.transfer e.initiator)).setBook
            e.initiatorBook .release).setBook e.recipientBook .release)
  | cancelExchange {e : Exchange} {row : ExchangeRow} {mine theirs : BookRow}
      (found : s.exchanges.get? e.id = some row) (pending : row.status = .known .pending)
      (mineFound : s.books.get? e.initiatorBook = some mine)
      (theirsFound : s.books.get? e.recipientBook = some theirs) :
      Writes s (.cancelExchange e)
        (((s.setExchange e.id .cancel).setBook e.initiatorBook .release).setBook e.recipientBook .release)
  | insertReview {r : Review.Entry} (bounded : Review.ratingLeast ≤ r.rating ∧
      r.rating ≤ Review.ratingGreatest) :
      Writes s (.insertReview r) { s with reviews := s.reviews.insert (r.row s.clock) }.tick
  | removeReview {id : ReviewId} {row : ReviewRow} (found : s.reviews.get? id = some row) :
      Writes s (.removeReview id) { s with reviews := s.reviews.erase id }.tick

/-! The ports, one by one. -/
namespace Port
variable {s t : Store}

theorem writes_insertUser {r : User.Registration} {u : User}
    (h : outcome (Store.insertUser r) s = (.ok u, t)) : Writes s (.insertUser r) t := by
  rw [Store.insertUser, write_eq_ok] at h
  cases hfree : s.emailTaken (trim r.email) 0 with
  | true => simp [User.Registration.row, hfree] at h
  | false =>
    simp only [User.Registration.row, hfree, Bool.false_eq_true, ↓reduceIte, Except.ok.injEq,
      Prod.mk.injEq] at h
    obtain ⟨-, -, rfl⟩ := h
    exact .insertUser hfree

theorem writes_saveUser {u v : User} (h : outcome (Store.saveUser u) s = (.ok v, t)) :
    Writes s (.saveUser u) t := by
  rw [Store.saveUser, bind_eq_ok] at h
  obtain ⟨saved, w, hw, h⟩ := h
  rw [write_eq_ok] at hw
  cases saved with
  | false => simp at h
  | true =>
    simp only [↓reduceIte, outcome_pure, Prod.mk.injEq, Except.ok.injEq] at h
    obtain ⟨rfl, rfl⟩ := h
    cases hlive : s.liveUser? u.id with
    | none => simp [hlive] at hw
    | some row =>
      obtain ⟨found, live⟩ := Store.liveUser?_eq_some.mp hlive
      cases hfree : s.emailTaken u.email u.id with
      | true => simp [hlive, hfree] at hw
      | false =>
        simp only [hlive, hfree, Bool.false_eq_true, ↓reduceIte, Except.ok.injEq, Prod.mk.injEq,
          true_and] at hw
        obtain ⟨-, rfl⟩ := hw
        exact .saveUser found live hfree

theorem writes_removeUser {id : UserId} (h : outcome (Store.removeUser id) s = (.ok (), t)) :
    Writes s (.removeUser id) t := by
  obtain ⟨-, row, found, live, idle, rfl⟩ := Store.removeUser_eq_ok.mp h
  exact .removeUser found live idle

theorem writes_removeGenre {id : GenreId} (h : outcome (Store.removeGenre id) s = (.ok (), t)) :
    Writes s (.removeGenre id) t := by
  rw [Store.removeGenre, update_bind_eq_ok (refuses_throw _)] at h
  obtain ⟨-, row, found, -, h⟩ := h
  cases h
  exact .removeGenre found

theorem writes_insertGenre {name : String} {g : Genre}
    (h : outcome (Store.insertGenre name) s = (.ok g, t)) : Writes s (.insertGenre name) t := by
  rw [Store.insertGenre, write_eq_ok] at h
  cases hfree : s.genreTaken name with
  | true => simp [hfree] at h
  | false =>
    simp only [hfree, Bool.false_eq_true, ↓reduceIte, Except.ok.injEq, Prod.mk.injEq] at h
    obtain ⟨-, -, rfl⟩ := h
    exact .insertGenre hfree

theorem writes_insertBook {e : Book.Entry} {b : Book}
    (h : outcome (Store.insertBook e) s = (.ok b, t)) : Writes s (.insertBook e) t := by
  obtain ⟨known, gs, hgs, -, rfl⟩ := Store.insertBook_ok h
  exact .insertBook known hgs

theorem writes_insertExchange {p : Exchange.Proposal} {e : Exchange}
    (h : outcome (Store.insertExchange p) s = (.ok e, t)) : Writes s (.insertExchange p) t := by
  rw [Store.insertExchange, transaction_eq_ok, bind_eq_ok] at h
  obtain ⟨_, u, hmine, h⟩ := h
  obtain ⟨_, v, htheirs, h⟩ := bind_eq_ok.mp h
  obtain ⟨-, mine, mineFound, mineOwned, mineFree, rfl⟩ := Store.reserveOwned_eq_ok.mp hmine
  obtain ⟨-, theirs, theirsFound, theirsOwned, theirsFree, rfl⟩ :=
    Store.reserveOwned_eq_ok.mp htheirs
  -- The second reservation met the first one, so it cannot be of the same book.
  have books : p.initiatorBook ≠ p.recipientBook := by
    intro heq
    simp only [Store.setBook_get?, heq ▸ mineFound, heq, ↓reduceIte, Option.map_some,
      Option.some.injEq] at theirsFound
    subst theirsFound
    simp [BookRow.isFree, BookRow.reserve] at theirsFree
  rw [Store.setBook_get?, if_neg books.symm] at theirsFound
  have h := (write_eq_ok.mp h).2
  by_cases parties : p.initiator = p.recipient
  · simp [parties] at h
  · cases hi : s.users.get? p.initiator with
    | none => simp [parties, hi] at h
    | some i =>
      cases hr : s.users.get? p.recipient with
      | none => simp [parties, hr] at h
      | some r =>
        simp only [parties, Store.setBook_users, Store.setBook_get?, hi, hr, mineFound, theirsFound,
          books, books.symm, Option.map_some, Option.isNone_some, Bool.or_self, Bool.false_eq_true,
          ↓reduceIte, Except.ok.injEq, Prod.mk.injEq] at h
        obtain ⟨-, rfl⟩ := h
        exact .insertExchange mineFound mineOwned mineFree theirsFound theirsOwned theirsFree books
          parties ⟨by simp [hi], by simp [hr]⟩

theorem writes_acceptExchange {e : Exchange}
    (h : outcome (Store.acceptExchange e) s = (.ok (), t)) : Writes s (.acceptExchange e) t := by
  rw [Store.acceptExchange, Store.updateExchange_bind_eq_ok (refuses_throw _)] at h
  obtain ⟨-, row, found, pending, h⟩ := h
  cases h
  exact .acceptExchange found pending

theorem writes_completeExchange {e : Exchange}
    (h : outcome (Store.completeExchange e) s = (.ok (), t)) :
    Writes s (.completeExchange e) t := by
  rw [Store.completeExchange, transaction_eq_ok, Store.updateExchange_bind_eq_ok] at h
  · obtain ⟨-, row, found, accepted, h⟩ := h
    simp only [Bool.not_true, Bool.false_eq_true, ↓reduceIte] at h
    obtain ⟨_, u, hmine, h⟩ := bind_eq_ok.mp h
    obtain ⟨_, v, htheirs, h⟩ := bind_eq_ok.mp h
    obtain ⟨_, w, hrelease, h⟩ := bind_eq_ok.mp h
    obtain ⟨-, mine, mineFound, recipientKnown, rfl⟩ := Store.transfer_eq_ok.mp hmine
    obtain ⟨-, theirs, theirsFound, initiatorKnown, rfl⟩ := Store.transfer_eq_ok.mp htheirs
    obtain ⟨-, _, _, rfl⟩ := Store.release_eq_ok.mp hrelease
    obtain ⟨-, _, _, rfl⟩ := Store.release_eq_ok.mp h
    obtain ⟨theirs, theirsFound⟩ := Store.exists_of_setBook_get? theirsFound
    exact .completeExchange found accepted mineFound theirsFound ⟨initiatorKnown, recipientKnown⟩
  · intro u a v hu
    simp at hu

theorem writes_cancelExchange {e : Exchange}
    (h : outcome (Store.cancelExchange e) s = (.ok (), t)) : Writes s (.cancelExchange e) t := by
  rw [Store.cancelExchange, transaction_eq_ok, Store.updateExchange_bind_eq_ok] at h
  · obtain ⟨-, row, found, pending, h⟩ := h
    simp only [Bool.not_true, Bool.false_eq_true, ↓reduceIte] at h
    obtain ⟨_, u, hmine, h⟩ := bind_eq_ok.mp h
    obtain ⟨-, mine, mineFound, rfl⟩ := Store.release_eq_ok.mp hmine
    obtain ⟨-, theirs, theirsFound, rfl⟩ := Store.release_eq_ok.mp h
    obtain ⟨theirs, theirsFound⟩ := Store.exists_of_setBook_get? theirsFound
    exact .cancelExchange found pending mineFound theirsFound
  · intro u a v hu
    simp at hu

theorem writes_insertReview {r : Review.Entry} {v : Review}
    (h : outcome (Store.insertReview r) s = (.ok v, t)) : Writes s (.insertReview r) t := by
  rw [Store.insertReview, write_eq_ok] at h
  by_cases hbound : r.rating < Review.ratingLeast ∨ Review.ratingGreatest < r.rating
  · simp [hbound] at h
  · simp only [hbound, ↓reduceIte, Except.ok.injEq, Prod.mk.injEq] at h
    obtain ⟨-, -, rfl⟩ := h
    exact .insertReview (by omega)

theorem writes_removeReview {id : ReviewId} (h : outcome (Store.removeReview id) s = (.ok (), t)) :
    Writes s (.removeReview id) t := by
  obtain ⟨-, row, found, rfl⟩ := Store.removeReview_eq_ok.mp h
  exact .removeReview found

/-- A description is written before the book is read again; only then can the call fail with its
write done. -/
theorem describe_cases (id : BookId) (description : String) (s : Store) :
    (∃ e, outcome (Store.describe id description) s = (.error e, s)) ∨
      ∃ r t, outcome (Store.describe id description) s = (r, t) ∧ Writes s (.describe id description) t ∧
        ∀ b, r = .ok b ↔ t.book? id = .ok (some b) := by
  rw [Store.describe, outcome_bind]
  cases hu : outcome (Store.updateBook id (·.isLive) (.describe description)) s with
  | mk r t =>
    cases r with
    | error e =>
      have hts := atomic_write _ _ _ _ hu
      exact .inl ⟨e, by rw [hts]⟩
    | ok done =>
      cases done with
      | false =>
        obtain ⟨-, rfl, -⟩ := update_eq_false.mp hu
        exact .inl ⟨.bookNotFound id, rfl⟩
      | true =>
        obtain ⟨-, row, found, live, ht⟩ := update_eq_true.mp hu
        have hw : Writes s (.describe id description) t := ht ▸ .describe found live
        right
        simp only [Bool.not_true, Bool.false_eq_true, ↓reduceIte, outcome_bind, outcome_read]
        cases hb : t.book? id with
        | error e => exact ⟨.error e, t, rfl, hw, by simp [hb]⟩
        | ok found =>
          cases found with
          | none => exact ⟨.error (.bookNotFound id), t, rfl, hw, by simp [hb]⟩
          | some b => exact ⟨.ok b, t, rfl, hw, by simp [hb]⟩

/-- A port that succeeds has written. -/
theorem writes_of_ok {p : Port} {a : Answer} (h : outcome p.perform s = (.ok a, t)) :
    p.Writes s t := by
  cases p with
  | insertUser r =>
    obtain ⟨u, h, -⟩ := map_eq_ok.mp h
    exact writes_insertUser h
  | saveUser u =>
    obtain ⟨v, h, -⟩ := map_eq_ok.mp h
    exact writes_saveUser h
  | removeUser id =>
    exact writes_removeUser (then_pure_eq_ok.mp h).1
  | insertGenre name =>
    obtain ⟨g, h, -⟩ := map_eq_ok.mp h
    exact writes_insertGenre h
  | removeGenre id =>
    exact writes_removeGenre (then_pure_eq_ok.mp h).1
  | insertBook e =>
    obtain ⟨b, h, -⟩ := map_eq_ok.mp h
    exact writes_insertBook h
  | describe id description =>
    obtain ⟨b, h, -⟩ := map_eq_ok.mp h
    obtain ⟨e, he⟩ | ⟨r, u, hr, hw, -⟩ := describe_cases id description s
    · simp [he] at h
    · rw [hr] at h
      cases h
      exact hw
  | removeBook id =>
    obtain ⟨-, row, found, free, rfl⟩ := Store.removeBook_eq_ok.mp (then_pure_eq_ok.mp h).1
    exact .removeBook found free
  | reserve id =>
    obtain ⟨-, row, found, free, rfl⟩ := Store.reserve_eq_ok.mp (then_pure_eq_ok.mp h).1
    exact .reserve found free
  | release id =>
    obtain ⟨-, row, found, rfl⟩ := Store.release_eq_ok.mp (then_pure_eq_ok.mp h).1
    exact .release found
  | transfer id owner =>
    obtain ⟨-, row, found, known, rfl⟩ := Store.transfer_eq_ok.mp (then_pure_eq_ok.mp h).1
    exact .transfer found known
  | insertExchange p =>
    obtain ⟨e, h, -⟩ := map_eq_ok.mp h
    exact writes_insertExchange h
  | acceptExchange e =>
    exact writes_acceptExchange (then_pure_eq_ok.mp h).1
  | completeExchange e =>
    exact writes_completeExchange (then_pure_eq_ok.mp h).1
  | cancelExchange e =>
    exact writes_cancelExchange (then_pure_eq_ok.mp h).1
  | insertReview r =>
    obtain ⟨v, h, -⟩ := map_eq_ok.mp h
    exact writes_insertReview h
  | removeReview id =>
    exact writes_removeReview (then_pure_eq_ok.mp h).1

/-- No row of a user goes. -/
theorem Writes.user_kept {p : Port} (h : p.Writes s t) {id : UserId}
    (found : (s.users.get? id).isSome) : (t.users.get? id).isSome := by
  cases h with
  | insertUser =>
    rw [Store.tick_users, Table.get?_insert]
    split
    · rfl
    · exact found
  | saveUser => rwa [Store.tick_users, Table.isSome_get?_modify]
  | removeUser => rwa [Table.isSome_get?_modify]
  | _ => exact found

/-- No row of a book goes. -/
theorem Writes.book_kept {p : Port} (h : p.Writes s t) {id : BookId}
    (found : (s.books.get? id).isSome) : (t.books.get? id).isSome := by
  cases h with
  | removeUser => simpa [Table.get?_map] using found
  | insertBook =>
    rw [Store.tick_books, Table.get?_insert]
    split
    · rfl
    · exact found
  | describe => exact (Store.isSome_setBook ..).trans found
  | removeBook => exact (Store.isSome_setBook ..).trans found
  | reserve => exact (Store.isSome_setBook ..).trans found
  | release => exact (Store.isSome_setBook ..).trans found
  | transfer => exact (Store.isSome_setBook ..).trans found
  | insertExchange => simpa only [Store.tick_books, Store.isSome_setBook] using found
  | completeExchange =>
    simpa only [Store.isSome_setBook, Store.setExchange_books] using found
  | cancelExchange =>
    simpa only [Store.isSome_setBook, Store.setExchange_books] using found
  | _ => exact found

theorem atomic_saveUser (u : User) : Atomic (Store.saveUser u) := by
  refine (atomic_write _).bind_found ?_ (fun _ => rfl) (quiet_throw _)
  intro s t h
  have h := (write_eq_ok.mp h).2
  cases hlive : s.liveUser? u.id with
  | none => simpa [hlive, eq_comm] using h
  | some row => cases hfree : s.emailTaken u.email u.id <;> simp [hlive, hfree] at h

theorem atomic_transfer (id : BookId) (owner : UserId) : Atomic (Store.transfer id owner) := by
  refine (atomic_write _).bind_found ?_ (fun _ => rfl) (quiet_throw _)
  intro s t h
  have h := (write_eq_ok.mp h).2
  cases hb : s.books.get? id with
  | none => simpa [hb, eq_comm] using h
  | some row => cases hu : s.users.get? owner <;> simp [hb, hu] at h

/-- A port that fails has left no trace, unless it described a book. -/
theorem atomic_perform {p : Port} (hp : ∀ id description, p ≠ .describe id description) :
    Atomic p.perform := by
  cases p with
  | insertUser r => exact (atomic_write _).map _
  | saveUser u => exact (atomic_saveUser u).map _
  | removeUser id => exact (atomic_transaction _).then_pure _
  | insertGenre name => exact (atomic_write _).map _
  | removeGenre id => exact (atomic_update_bind (fun _ => rfl) (quiet_throw _)).then_pure _
  | insertBook e => exact (atomic_transaction _).map _
  | describe id description => exact absurd rfl (hp id description)
  | removeBook id =>
    have hfailed : Quiet (do let _ ← Call.read (·.requireStatus id); throw .bookReserved : Call Unit) :=
      (quiet_read _).bind fun _ => quiet_throw _
    exact (atomic_update_bind (fun _ => rfl) hfailed).then_pure _
  | reserve id =>
    have hfailed : Quiet (do let _ ← Call.read (·.requireStatus id); throw (.alreadyReserved id) :
        Call Unit) := (quiet_read _).bind fun _ => quiet_throw _
    exact (atomic_update_bind (fun _ => rfl) hfailed).then_pure _
  | release id => exact (atomic_update_bind (fun _ => rfl) (quiet_throw _)).then_pure _
  | transfer id owner => exact (atomic_transfer id owner).then_pure _
  | insertExchange p => exact (atomic_transaction _).map _
  | acceptExchange e => exact (atomic_update_bind (fun _ => rfl) (quiet_throw _)).then_pure _
  | completeExchange e => exact (atomic_transaction _).then_pure _
  | cancelExchange e => exact (atomic_transaction _).then_pure _
  | insertReview r => exact (atomic_write _).map _
  | removeReview id => exact (atomic_update_bind (fun _ => rfl) (quiet_throw _)).then_pure _

end Port

end Market

end BookExchange
