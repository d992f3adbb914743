import BookExchange.Proofs.Closure
import BookExchange.Proofs.Interleaving
import BookExchange.Proofs.Staleness

/-! Who can change what. A call is asked for by one user: it changes that user's account, the listings
that the user owns, the exchanges that the user has a say in with the two books that they name, and the
user's reviews. All that other users have stays as it was. -/
namespace BookExchange
open Call

/-- What the owner of a book decides about it. -/
structure BookRow.SameListing (row' row : BookRow) : Prop where
  title : row'.title = row.title
  author : row'.author = row.author
  description : row'.description = row.description
  summary : row'.summary = row.summary
  deletedAt : row'.deletedAt = row.deletedAt

theorem BookRow.SameListing.refl (row : BookRow) : row.SameListing row := ⟨rfl, rfl, rfl, rfl, rfl⟩

theorem BookRow.SameListing.trans {row row' row'' : BookRow} (h : row''.SameListing row')
    (h' : row'.SameListing row) : row''.SameListing row :=
  ⟨h.title.trans h'.title, h.author.trans h'.author, h.description.trans h'.description,
    h.summary.trans h'.summary, h.deletedAt.trans h'.deletedAt⟩

theorem BookRow.sameListing_reserve (now : Time) (row : BookRow) :
    (row.reserve now).SameListing row := ⟨rfl, rfl, rfl, rfl, rfl⟩

theorem BookRow.sameListing_release (now : Time) (row : BookRow) :
    (row.release now).SameListing row := ⟨rfl, rfl, rfl, rfl, rfl⟩

theorem BookRow.sameListing_transfer (owner : UserId) (now : Time) (row : BookRow) :
    (row.transfer owner now).SameListing row := ⟨rfl, rfl, rfl, rfl, rfl⟩

namespace Store

/-- The exchange is there, on these terms and with this status. -/
def Stands (s : Store) (x : ExchangeId) (p : Exchange.Proposal) (status : Exchange.Status) : Prop :=
  ∃ row, s.exchanges.get? x = some row ∧ row.terms = p ∧ row.status = .known status

/-- Between the two stores the user has moved the exchange to the status. -/
inductive Moved (a : UserId) (s t : Store) (x : ExchangeId) (p : Exchange.Proposal) :
    Exchange.Status → Prop where
  | opens (fresh : s.exchanges.get? x = none) (now : t.Stands x p .pending)
      (initiator : p.initiator = a) : Moved a s t x p .pending
  | accepts (before : s.Stands x p .pending) (now : t.Stands x p .accepted)
      (recipient : p.recipient = a) : Moved a s t x p .accepted
  | completes (before : s.Stands x p .accepted) (now : t.Stands x p .completed)
      (party : p.HasParty a) : Moved a s t x p .completed
  | cancels (before : s.Stands x p .pending) (now : t.Stands x p .cancelled)
      (initiator : p.initiator = a) : Moved a s t x p .cancelled

theorem Moved.now {a : UserId} {s t : Store} {x : ExchangeId} {p : Exchange.Proposal}
    {status : Exchange.Status} (h : s.Moved a t x p status) : t.Stands x p status := by
  cases h <;> assumption

/-- An exchange that is moved was there, unless it is opened. -/
theorem Moved.before {a : UserId} {s t : Store} {x : ExchangeId} {p : Exchange.Proposal}
    {status : Exchange.Status} (h : s.Moved a t x p status) :
    s.exchanges.get? x = none ∧ status = .pending ∨
      ∃ row, s.exchanges.get? x = some row ∧ row.terms = p := by
  cases h with
  | opens fresh => exact .inl ⟨fresh, rfl⟩
  | accepts before | completes before | cancels before =>
    obtain ⟨row, found, terms, -⟩ := before
    exact .inr ⟨row, found, terms⟩

/-- All that differs between the two stores is the user's to change. -/
structure ChangedBy (a : UserId) (s t : Store) : Prop where
  accounts : ∀ u row, s.users.get? u = some row → t.users.get? u ≠ some row → u = a
  listings : ∀ b row, s.books.get? b = some row → row.owner ≠ a →
    ∃ row', t.books.get? b = some row' ∧ row'.SameListing row
  owners : ∀ b row row', s.books.get? b = some row → t.books.get? b = some row' →
    row'.owner ≠ row.owner → ∃ x p, p.Names b ∧ s.Moved a t x p .completed
  statuses : ∀ b row row', s.books.get? b = some row → t.books.get? b = some row' →
    row'.status ≠ row.status → ∃ x p status, p.Names b ∧ status ≠ .accepted ∧ s.Moved a t x p status
  exchanges : ∀ x row, s.exchanges.get? x = some row → ∃ row', t.exchanges.get? x = some row' ∧
    (row'.status ≠ row.status →
      ∃ status, row'.status = .known status ∧ s.Moved a t x row.terms status)
  reviews : ∀ r row, s.reviews.get? r = some row → t.reviews.get? r ≠ some row → row.author = a
  newBooks : ∀ b row, s.books.get? b = none → t.books.get? b = some row → row.owner = a
  newExchanges : ∀ x row, s.exchanges.get? x = none → t.exchanges.get? x = some row →
    s.Moved a t x row.terms .pending
  newReviews : ∀ r row, s.reviews.get? r = none → t.reviews.get? r = some row → row.author = a

variable {a : UserId} {s t : Store}

theorem absurd_of_eq {α : Type} {u v : Table α} (h : v = u) {id : Int} {row : α} {P : Prop}
    (found : u.get? id = some row) (gone : v.get? id ≠ some row) : P :=
  absurd (h ▸ found) gone

theorem absurd_of_none {α : Type} {u v : Table α} (h : v = u) {id : Int} {row : α} {P : Prop}
    (none : u.get? id = none) (found : v.get? id = some row) : P := by
  rw [h, none] at found
  cases found

/-- No exchange is involved, and books keep owner and status. -/
theorem ChangedBy.of_exchanges (hx : t.exchanges = s.exchanges)
    (accounts : ∀ u row, s.users.get? u = some row → t.users.get? u ≠ some row → u = a)
    (books : ∀ b row, s.books.get? b = some row → ∃ row', t.books.get? b = some row' ∧
      row'.owner = row.owner ∧ row'.status = row.status ∧ (row.owner ≠ a → row'.SameListing row))
    (newBooks : ∀ b row, s.books.get? b = none → t.books.get? b = some row → row.owner = a)
    (reviews : ∀ r row, s.reviews.get? r = some row → t.reviews.get? r ≠ some row → row.author = a)
    (newReviews : ∀ r row, s.reviews.get? r = none → t.reviews.get? r = some row →
      row.author = a) : s.ChangedBy a t where
  accounts := accounts
  listings b row found hother := by
    obtain ⟨row', found', -, -, hsame⟩ := books b row found
    exact ⟨row', found', hsame hother⟩
  owners b row row' found found' hne := by
    obtain ⟨_, hrow, howner, -⟩ := books b row found
    cases found'.symm.trans hrow
    exact absurd howner hne
  statuses b row row' found found' hne := by
    obtain ⟨_, hrow, -, hstatus, -⟩ := books b row found
    cases found'.symm.trans hrow
    exact absurd hstatus hne
  exchanges x row found := ⟨row, hx ▸ found, fun hne => absurd rfl hne⟩
  reviews := reviews
  newBooks := newBooks
  newExchanges x row none found := absurd_of_none hx none found
  newReviews := newReviews

theorem books_unchanged (h : t.books = s.books) {b : BookId} {row : BookRow}
    (found : s.books.get? b = some row) : ∃ row', t.books.get? b = some row' ∧
      row'.owner = row.owner ∧ row'.status = row.status ∧ (row.owner ≠ a → row'.SameListing row) :=
  ⟨row, h ▸ found, rfl, rfl, fun _ => .refl row⟩

theorem ChangedBy.of_tables (hu : t.users = s.users) (hb : t.books = s.books)
    (hx : t.exchanges = s.exchanges) (hr : t.reviews = s.reviews) : s.ChangedBy a t :=
  .of_exchanges hx (fun _ _ => absurd_of_eq hu) (fun _ _ => books_unchanged hb)
    (fun _ _ => absurd_of_none hb) (fun _ _ => absurd_of_eq hr) fun _ _ => absurd_of_none hr

theorem relisted_setBook {u : Store} {id b : BookId} {f : Time → BookRow → BookRow} {row : BookRow}
    (hf : ∀ now row, (f now row).SameListing row)
    (h : ∃ row', u.books.get? b = some row' ∧ row'.SameListing row) :
    ∃ row', (u.setBook id f).books.get? b = some row' ∧ row'.SameListing row := by
  obtain ⟨row', found, hsame⟩ := h
  by_cases hb : b = id
  · exact ⟨f u.clock row', by simp [hb ▸ found, hb], (hf _ _).trans hsame⟩
  · exact ⟨row', by simp [hb, found], hsame⟩

theorem named_of_changed {P : Prop} {b : BookId} {row row' : BookRow}
    (unnamed : ¬ P → t.books.get? b = s.books.get? b) (found : s.books.get? b = some row)
    (found' : t.books.get? b = some row') (changed : row' ≠ row) : P := by
  by_contra hother
  exact changed (Option.some.inj (found'.symm.trans ((unnamed hother).trans found)))

/-- One exchange is moved, and no books but those that it names change with it. -/
theorem ChangedBy.of_moved {x : ExchangeId} {p : Exchange.Proposal} {status : Exchange.Status}
    (hu : t.users = s.users) (hr : t.reviews = s.reviews) (moved : s.Moved a t x p status)
    (others : ∀ y, y ≠ x → t.exchanges.get? y = s.exchanges.get? y)
    (unnamed : ∀ b, ¬ (p.Names b ∧ status ≠ .accepted) → t.books.get? b = s.books.get? b)
    (relisted : ∀ b row, s.books.get? b = some row →
      ∃ row', t.books.get? b = some row' ∧ row'.SameListing row)
    (owned : status ≠ .completed → ∀ b, t.ownerOf b = s.ownerOf b)
    (noBooks : ∀ b, s.books.get? b = none → t.books.get? b = none) : s.ChangedBy a t where
  accounts _ _ := absurd_of_eq hu
  listings b row found _ := relisted b row found
  owners b row row' found found' hne := by
    have hcompleted : status = .completed := by
      by_contra hother
      have howner := owned hother b
      simp only [ownerOf, found, found', Option.map_some, Option.some.injEq] at howner
      exact hne howner
    have hnamed := named_of_changed (unnamed b) found found' fun h => hne (by rw [h])
    exact ⟨x, p, hnamed.1, hcompleted ▸ moved⟩
  statuses b row row' found found' hne := by
    have hnamed := named_of_changed (unnamed b) found found' fun h => hne (by rw [h])
    exact ⟨x, p, status, hnamed.1, hnamed.2, moved⟩
  exchanges y row found := by
    by_cases hy : y = x
    · subst hy
      obtain ⟨row', found', -, hs⟩ := moved.now
      obtain ⟨fresh, -⟩ | ⟨_, hrow, rfl⟩ := moved.before
      · simp [fresh] at found
      · cases found.symm.trans hrow
        exact ⟨row', found', fun _ => ⟨status, hs, moved⟩⟩
    · exact ⟨row, (others y hy).trans found, fun hne => absurd rfl hne⟩
  reviews _ _ := absurd_of_eq hr
  newBooks b row none found := by simp [noBooks b none] at found
  newExchanges y row none found := by
    by_cases hy : y = x
    · subst hy
      obtain ⟨_, hrow, rfl, -⟩ := moved.now
      cases found.symm.trans hrow
      obtain ⟨-, rfl⟩ | ⟨_, hrow, -⟩ := moved.before
      · exact moved
      · simp [none] at hrow
    · simp [others y hy, none] at found
  newReviews _ _ := absurd_of_none hr

end Store

namespace Market
variable {a : UserId} {s t : Store} {p : Port} {op : Operation} {summarize : String → String}

/-- The user in whose name the operation is asked for, if it takes one. -/
def Operation.actor? : Operation → Option UserId
  | .updateUser _ actor _ | .deleteUser _ actor | .createBook actor _ | .updateBook _ actor _
  | .deleteBook _ actor | .createExchange actor _ | .acceptExchange _ actor
  | .completeExchange _ actor | .cancelExchange _ actor | .createReview actor _
  | .deleteReview _ actor => some actor
  | _ => none

/-- Called on the store, the port writes only what is the user's to change. -/
def Port.ActsFor (a : UserId) (s : Store) : Port → Prop
  | .saveUser u => u.id = a
  | .removeUser id => id = a
  | .insertBook e => e.owner = a
  | .describe id _ | .removeBook id => s.ownerOf id = some a
  | .insertExchange p => p.initiator = a
  | .acceptExchange e => e.recipient = a ∧ (Port.acceptExchange e).Fits s
  | .completeExchange e => e.terms.HasParty a ∧ (Port.completeExchange e).Fits s
  | .cancelExchange e => e.initiator = a ∧ (Port.cancelExchange e).Fits s
  | .insertReview r => r.author = a
  | .removeReview id => ∃ row, s.reviews.get? id = some row ∧ row.author = a
  | .reserve _ | .release _ | .transfer _ _ => False
  | .insertUser _ | .insertGenre _ | .removeGenre _ => True

/-- By its checks a service calls its port for the user who asks. -/
theorem Operation.Reaches.actsFor (reached : op.Reaches summarize s p)
    (asked : ∀ u, op.actor? = some u → u = a) : p.ActsFor a s := by
  have hshows := reached.shows
  cases reached with
  | createUser | createGenre | deleteGenre => trivial
  | updateUser valid found =>
    obtain ⟨row, -, -, rfl⟩ := Store.user?_eq_some.mp found
    exact asked _ rfl
  | deleteUser | createBook | createExchange | createReview => exact asked _ rfl
  | updateBook found | deleteBook found =>
    rw [← asked _ rfl]
    exact Store.ownerOf_of_book? found
  | acceptExchange positive found accepted =>
    obtain ⟨-, rfl, rfl⟩ := Exchange.accept_eq_ok.mp accepted
    exact ⟨asked _ rfl, hshows.terms⟩
  | completeExchange positive found completed =>
    obtain ⟨-, party, rfl⟩ := Exchange.complete_eq_ok.mp completed
    simp only [Exchange.isParty, Bool.or_eq_true, beq_iff_eq] at party
    rw [asked _ rfl] at party
    exact ⟨party.imp Eq.symm Eq.symm, hshows.terms⟩
  | cancelExchange positive found cancelled =>
    obtain ⟨-, rfl, rfl⟩ := Exchange.cancel_eq_ok.mp cancelled
    exact ⟨asked _ rfl, hshows.terms⟩
  | deleteReview found =>
    obtain ⟨row, hrow, rfl⟩ := Option.map_eq_some_iff.mp found
    exact ⟨row, hrow, asked _ rfl⟩

/-! The ports, table by table. -/

theorem changedBy_insertUser {r : User.Registration} (h : (Port.insertUser r).Writes s t) :
    s.ChangedBy a t := by
  cases h
  refine .of_exchanges rfl ?_ (fun _ _ => Store.books_unchanged rfl)
    (fun _ _ => Store.absurd_of_none rfl) (fun _ _ => Store.absurd_of_eq rfl)
    fun _ _ => Store.absurd_of_none rfl
  intro v row found changed
  have hne : v ≠ s.users.nextId := Int.ne_of_lt (Table.lt_nextId found)
  simp [Table.get?_insert, hne, found] at changed

theorem changedBy_saveUser {u : User} (h : (Port.saveUser u).Writes s t) (acts : u.id = a) :
    s.ChangedBy a t := by
  cases h
  refine .of_exchanges rfl ?_ (fun _ _ => Store.books_unchanged rfl)
    (fun _ _ => Store.absurd_of_none rfl) (fun _ _ => Store.absurd_of_eq rfl)
    fun _ _ => Store.absurd_of_none rfl
  intro v row found changed
  by_cases hv : v = u.id
  · exact hv.trans acts
  · simp [Table.get?_modify, hv, found] at changed

/-- The account is closed together with the listings of its user. -/
theorem changedBy_removeUser {id : UserId} (h : (Port.removeUser id).Writes s t) (acts : id = a) :
    s.ChangedBy a t := by
  subst acts
  cases h
  refine .of_exchanges rfl ?_ ?_ ?_ (fun _ _ => Store.absurd_of_eq rfl)
    fun _ _ => Store.absurd_of_none rfl
  · intro v row found changed
    by_cases hv : v = id
    · exact hv
    · simp [Table.get?_modify, hv, found] at changed
  · intro b row found
    refine ⟨row.withdraw id (s.clock + 1), by simp [Table.get?_map, found], ?_⟩
    unfold BookRow.withdraw
    split
    · rename_i hrow
      exact ⟨rfl, rfl, fun hother => absurd hrow.1 hother⟩
    · exact ⟨rfl, rfl, fun _ => .refl row⟩
  · intro b row none found
    simp [Table.get?_map, none] at found

theorem changedBy_insertBook {e : Book.Entry} (h : (Port.insertBook e).Writes s t)
    (acts : e.owner = a) : s.ChangedBy a t := by
  cases h
  refine .of_exchanges rfl (fun _ _ => Store.absurd_of_eq rfl) ?_ ?_
    (fun _ _ => Store.absurd_of_eq rfl) fun _ _ => Store.absurd_of_none rfl
  · intro b row found
    have hne : b ≠ s.books.nextId := Int.ne_of_lt (Table.lt_nextId found)
    exact ⟨row, by simp [Table.get?_insert, hne, found], rfl, rfl, fun _ => .refl row⟩
  · intro b row none found
    by_cases hb : b = s.books.nextId
    · simp only [Store.tick_books, Table.get?_insert, hb, ↓reduceIte, Option.some.injEq] at found
      exact found ▸ acts
    · simp [Table.get?_insert, hb, none] at found

/-- A statement on one book of the user leaves owner and status alone. -/
theorem changedBy_setBook {id : BookId} {f : Time → BookRow → BookRow}
    (hf : ∀ now row, (f now row).owner = row.owner ∧ (f now row).status = row.status)
    (acts : s.ownerOf id = some a) : s.ChangedBy a (s.setBook id f) := by
  refine .of_exchanges rfl (fun _ _ => Store.absurd_of_eq rfl) ?_ ?_
    (fun _ _ => Store.absurd_of_eq rfl) fun _ _ => Store.absurd_of_none rfl
  · intro b row found
    by_cases hb : b = id
    · subst hb
      have howner : row.owner = a := by simpa [Store.ownerOf, found] using acts
      exact ⟨f s.clock row, by simp [found], (hf _ _).1, (hf _ _).2, fun hother => absurd howner hother⟩
    · exact ⟨row, by simp [hb, found], rfl, rfl, fun _ => .refl row⟩
  · intro b row none found
    simp [none] at found

theorem changedBy_insertReview {r : Review.Entry} (h : (Port.insertReview r).Writes s t)
    (acts : r.author = a) : s.ChangedBy a t := by
  cases h
  refine .of_exchanges rfl (fun _ _ => Store.absurd_of_eq rfl) (fun _ _ => Store.books_unchanged rfl)
    (fun _ _ => Store.absurd_of_none rfl) ?_ ?_
  · intro v row found changed
    have hne : v ≠ s.reviews.nextId := Int.ne_of_lt (Table.lt_nextId found)
    exact absurd (by simp [Store.tick, Table.get?_insert, hne, found]) changed
  · intro v row none found
    by_cases hv : v = s.reviews.nextId
    · simp only [Store.tick, Table.get?_insert, hv, ↓reduceIte, Option.some.injEq] at found
      exact found ▸ acts
    · simp [Store.tick, Table.get?_insert, hv, none] at found

theorem changedBy_removeReview {id : ReviewId} (h : (Port.removeReview id).Writes s t)
    (acts : (Port.removeReview id).ActsFor a s) : s.ChangedBy a t := by
  obtain ⟨mine, hmine, author⟩ := acts
  cases h
  refine .of_exchanges rfl (fun _ _ => Store.absurd_of_eq rfl) (fun _ _ => Store.books_unchanged rfl)
    (fun _ _ => Store.absurd_of_none rfl) ?_ ?_
  · intro v row found changed
    by_cases hv : v = id
    · subst hv
      cases found.symm.trans hmine
      exact author
    · exact absurd (by simp [Store.tick, Table.get?_erase, hv, found]) changed
  · intro v row none found
    by_cases hv : v = id <;> simp [Store.tick, Table.get?_erase, hv, none] at found

theorem changedBy_insertExchange {q : Exchange.Proposal} (h : (Port.insertExchange q).Writes s t)
    (acts : q.initiator = a) : s.ChangedBy a t := by
  cases h
  refine @Store.ChangedBy.of_moved _ _ _ s.exchanges.nextId q .pending rfl rfl ?_ ?_ ?_ ?_ ?_ ?_
  · exact .opens (Table.get?_nextId _)
      ⟨q.row (s.clock + 2), by simp [Table.get?_insert], rfl, rfl⟩ acts
  · intro y hy
    simp [Table.get?_insert, hy]
  · intro b hb
    obtain ⟨hmine, htheirs⟩ := Exchange.Proposal.ne_of_not_names fun hnamed => hb ⟨hnamed, by simp⟩
    simp [hmine, htheirs]
  · intro b row found
    exact Store.relisted_setBook BookRow.sameListing_reserve
      (Store.relisted_setBook BookRow.sameListing_reserve ⟨row, found, .refl row⟩)
  · intro _ b
    have howner : ((s.setBook q.initiatorBook .reserve).setBook q.recipientBook .reserve).ownerOf b =
        s.ownerOf b := by simp
    exact howner
  · intro b none
    simp [none]

theorem changedBy_acceptExchange {e : Exchange} (h : (Port.acceptExchange e).Writes s t)
    (acts : (Port.acceptExchange e).ActsFor a s) : s.ChangedBy a t := by
  obtain ⟨recipient, row, hrow, terms⟩ := acts
  cases h with
  | acceptExchange found pending =>
    cases found.symm.trans hrow
    refine @Store.ChangedBy.of_moved _ _ _ e.id e.terms .accepted rfl rfl ?_ ?_ ?_ ?_ ?_ ?_
    · exact .accepts ⟨row, hrow, terms, pending⟩
        ⟨row.accept s.clock, by simp [hrow], terms, rfl⟩ recipient
    · intro y hy
      simp [hy]
    · exact fun _ _ => rfl
    · exact fun b row found => ⟨row, found, .refl row⟩
    · exact fun _ _ => rfl
    · exact fun _ none => none

theorem changedBy_completeExchange {e : Exchange} (h : (Port.completeExchange e).Writes s t)
    (acts : (Port.completeExchange e).ActsFor a s) : s.ChangedBy a t := by
  obtain ⟨party, row, hrow, terms⟩ := acts
  cases h with
  | completeExchange found accepted =>
    cases found.symm.trans hrow
    refine @Store.ChangedBy.of_moved _ _ _ e.id e.terms .completed rfl rfl ?_ ?_ ?_ ?_ ?_ ?_
    · exact .completes ⟨row, hrow, terms, accepted⟩
        ⟨row.complete e.completedAt s.clock, by simp [hrow], terms, rfl⟩ party
    · intro y hy
      simp [hy]
    · intro b hb
      obtain ⟨hmine, htheirs⟩ : b ≠ e.initiatorBook ∧ b ≠ e.recipientBook :=
        Exchange.Proposal.ne_of_not_names (p := e.terms) fun hnamed => hb ⟨hnamed, by simp⟩
      simp [hmine, htheirs]
    · intro b row found
      exact Store.relisted_setBook BookRow.sameListing_release
        (Store.relisted_setBook BookRow.sameListing_release
          (Store.relisted_setBook (BookRow.sameListing_transfer _)
            (Store.relisted_setBook (BookRow.sameListing_transfer _) ⟨row, found, .refl row⟩)))
    · exact fun hother => absurd rfl hother
    · intro b none
      simp [none]

theorem changedBy_cancelExchange {e : Exchange} (h : (Port.cancelExchange e).Writes s t)
    (acts : (Port.cancelExchange e).ActsFor a s) : s.ChangedBy a t := by
  obtain ⟨initiator, row, hrow, terms⟩ := acts
  cases h with
  | cancelExchange found pending =>
    cases found.symm.trans hrow
    refine @Store.ChangedBy.of_moved _ _ _ e.id e.terms .cancelled rfl rfl ?_ ?_ ?_ ?_ ?_ ?_
    · exact .cancels ⟨row, hrow, terms, pending⟩
        ⟨row.cancel s.clock, by simp [hrow], terms, rfl⟩ initiator
    · intro y hy
      simp [hy]
    · intro b hb
      obtain ⟨hmine, htheirs⟩ : b ≠ e.initiatorBook ∧ b ≠ e.recipientBook :=
        Exchange.Proposal.ne_of_not_names (p := e.terms) fun hnamed => hb ⟨hnamed, by simp⟩
      simp [hmine, htheirs]
    · intro b row found
      exact Store.relisted_setBook BookRow.sameListing_release
        (Store.relisted_setBook BookRow.sameListing_release ⟨row, found, .refl row⟩)
    · intro _ b
      simp
    · intro b none
      simp [none]

theorem Port.Writes.changedBy (h : p.Writes s t) (acts : p.ActsFor a s) : s.ChangedBy a t := by
  cases p with
  | insertUser r => exact changedBy_insertUser h
  | saveUser u => exact changedBy_saveUser h acts
  | removeUser id => exact changedBy_removeUser h acts
  | insertGenre name =>
    cases h
    exact .of_tables rfl rfl rfl rfl
  | removeGenre id =>
    cases h
    exact .of_tables rfl rfl rfl rfl
  | insertBook e => exact changedBy_insertBook h acts
  | describe id description =>
    cases h
    exact changedBy_setBook (fun _ _ => ⟨rfl, rfl⟩) acts
  | removeBook id =>
    cases h
    exact changedBy_setBook (fun _ _ => ⟨rfl, rfl⟩) acts
  | reserve id => exact acts.elim
  | release id => exact acts.elim
  | transfer id owner => exact acts.elim
  | insertExchange q => exact changedBy_insertExchange h acts
  | acceptExchange e => exact changedBy_acceptExchange h acts
  | completeExchange e => exact changedBy_completeExchange h acts
  | cancelExchange e => exact changedBy_cancelExchange h acts
  | insertReview r => exact changedBy_insertReview h acts
  | removeReview id => exact changedBy_removeReview h acts

/-- Whatever a user asks for, in whatever store, and whether or not it is granted: what changes is the
user's account, a listing, an exchange with its books, or a review of the user's. -/
theorem Operation.changes_own (summarize : String → String) (op : Operation) (s : Store)
    (asked : ∀ u, op.actor? = some u → u = a) :
    s.ChangedBy a ((Command.service summarize op).after s) := by
  obtain unchanged | ⟨p, calls, written⟩ := (Command.service summarize op).after_cases s
  · rw [unchanged]
    exact .of_tables rfl rfl rfl rfl
  · cases calls with
    | service reached => exact written.changedBy (reached.actsFor asked)

/-- The first user completes the exchange, and with it the book of each goes to the other. -/
theorem Operation.changes_own_completion :
    (follow .fresh acceptance).2.ownerOf 1 = some 1 ∧
      ((Command.service id (.completeExchange 1 1)).after (follow .fresh acceptance).2).ownerOf 1 =
        some 2 ∧
      (follow .fresh acceptance).2.ChangedBy 1
        ((Command.service id (.completeExchange 1 1)).after (follow .fresh acceptance).2) :=
  ⟨by decide +kernel, by decide +kernel,
    Operation.changes_own id _ _ fun _ asked => (Option.some.inj asked).symm⟩

end Market

end BookExchange
