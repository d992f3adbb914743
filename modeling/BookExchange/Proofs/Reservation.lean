import BookExchange.Proofs.Lifecycle

/-! A book is reserved exactly while an exchange holds it. The two tables are only ever changed together:
an exchange opens with two books that were free, and when it closes it frees the same two, for no other
open exchange has either. -/
namespace BookExchange

namespace Exchange.Proposal

def Names (p : Proposal) (b : BookId) : Prop := p.initiatorBook = b ∨ p.recipientBook = b

/-- The user gives the book. -/
def Brings (p : Proposal) (b : BookId) (u : UserId) : Prop :=
  p.initiatorBook = b ∧ p.initiator = u ∨ p.recipientBook = b ∧ p.recipient = u

variable {p : Proposal} {b : BookId} {u : UserId}

theorem ne_of_not_names (h : ¬ p.Names b) : b ≠ p.initiatorBook ∧ b ≠ p.recipientBook :=
  ⟨fun hmine => h (.inl hmine.symm), fun htheirs => h (.inr htheirs.symm)⟩

theorem Brings.names (h : p.Brings b u) : p.Names b := h.imp And.left And.left

theorem Names.brings (h : p.Names b) : ∃ u, p.Brings b u := by
  obtain h | h := h
  · exact ⟨p.initiator, .inl ⟨h, rfl⟩⟩
  · exact ⟨p.recipient, .inr ⟨h, rfl⟩⟩

end Exchange.Proposal

namespace Store

/-- The exchange is pending or accepted. -/
def Active (s : Store) (x : ExchangeId) (p : Exchange.Proposal) : Prop :=
  ∃ row, s.exchanges.get? x = some row ∧ row.isActive ∧ row.terms = p

def IsReserved (s : Store) (b : BookId) : Prop :=
  ∃ book, s.books.get? b = some book ∧ book.status = .known .reserved

/-- The user's book is there and reserved. -/
def HeldFrom (s : Store) (b : BookId) (u : UserId) : Prop :=
  ∃ book, s.books.get? b = some book ∧ book.status = .known .reserved ∧ book.isLive ∧ book.owner = u

/-- Books and exchanges agree. -/
structure Consistent (s : Store) : Prop where
  distinct : ∀ x p, s.Active x p → p.initiator ≠ p.recipient ∧ p.initiatorBook ≠ p.recipientBook
  held : ∀ x p b u, s.Active x p → p.Brings b u → s.HeldFrom b u
  unique : ∀ x y p q b, s.Active x p → s.Active y q → p.Names b → q.Names b → x = y
  justified : ∀ b, s.IsReserved b → ∃ x p, s.Active x p ∧ p.Names b

variable {s t : Store} {x : ExchangeId} {p : Exchange.Proposal}

theorem HeldFrom.isReserved {b : BookId} {u : UserId} (h : s.HeldFrom b u) : s.IsReserved b := by
  obtain ⟨book, hbook, hstatus, -, -⟩ := h
  exact ⟨book, hbook, hstatus⟩

theorem HeldFrom.congr {b : BookId} {u : UserId} (h : s.HeldFrom b u)
    (hb : t.books.get? b = s.books.get? b) : t.HeldFrom b u := by
  obtain ⟨book, hbook, h⟩ := h
  exact ⟨book, hb.trans hbook, h⟩

theorem IsReserved.congr {b : BookId} (h : s.IsReserved b) (hb : t.books.get? b = s.books.get? b) :
    t.IsReserved b := by
  obtain ⟨book, hbook, h⟩ := h
  exact ⟨book, hb.trans hbook, h⟩

theorem active_of_get? {row : ExchangeRow} {status : Exchange.Status}
    (found : s.exchanges.get? x = some row) (hs : row.status = .known status)
    (hactive : status.isActive) (terms : row.terms = p) : s.Active x p :=
  ⟨row, found, by simpa [ExchangeRow.isActive, hs] using hactive, terms⟩

theorem Active.terms_unique {q : Exchange.Proposal} (hp : s.Active x p) (hq : s.Active x q) : q = p := by
  obtain ⟨row, hrow, -, rfl⟩ := hp
  obtain ⟨row', hrow', -, rfl⟩ := hq
  rw [hrow] at hrow'
  cases hrow'
  rfl

theorem consistent_fresh : fresh.Consistent := by
  constructor <;> simp [fresh, Active, IsReserved]

namespace Consistent

/-- Exchanges are left alone, and so are the books that are reserved. -/
theorem of_books (h : s.Consistent) (hx : t.exchanges = s.exchanges)
    (hheld : ∀ b u, s.HeldFrom b u → t.HeldFrom b u) (hres : ∀ b, t.IsReserved b → s.IsReserved b) :
    t.Consistent := by
  have hactive : t.Active = s.Active := by
    unfold Active
    rw [hx]
  constructor
  · rw [hactive]
    exact h.distinct
  · rw [hactive]
    exact fun x p b u hp hb => hheld b u (h.held x p b u hp hb)
  · rw [hactive]
    exact h.unique
  · rw [hactive]
    exact fun b hb => h.justified b (hres b hb)

/-- An exchange opens with two books that were not reserved. -/
theorem opened (h : s.Consistent) (hfresh : ∀ q, ¬ s.Active x q)
    (hactive : ∀ y q, t.Active y q ↔ s.Active y q ∨ y = x ∧ q = p)
    (hdistinct : p.initiator ≠ p.recipient ∧ p.initiatorBook ≠ p.recipientBook)
    (hothers : ∀ b, ¬ p.Names b → t.books.get? b = s.books.get? b)
    (hfree : ∀ b, p.Names b → ¬ s.IsReserved b) (hheld : ∀ b u, p.Brings b u → t.HeldFrom b u) :
    t.Consistent := by
  -- An exchange that was open already holds none of the two books.
  have hapart : ∀ y q b, s.Active y q → q.Names b → ¬ p.Names b := by
    intro y q b hq hb hp
    obtain ⟨u, hu⟩ := hb.brings
    exact hfree b hp (h.held y q b u hq hu).isReserved
  constructor
  · intro y q hq
    obtain hq | ⟨-, rfl⟩ := (hactive y q).mp hq
    · exact h.distinct y q hq
    · exact hdistinct
  · intro y q b u hq hb
    obtain hq | ⟨-, rfl⟩ := (hactive y q).mp hq
    · exact (h.held y q b u hq hb).congr (hothers b (hapart y q b hq hb.names))
    · exact hheld b u hb
  · intro y z q r b hq hr hqb hrb
    obtain hq | ⟨rfl, rfl⟩ := (hactive y q).mp hq
    · obtain hr | ⟨rfl, rfl⟩ := (hactive z r).mp hr
      · exact h.unique y z q r b hq hr hqb hrb
      · exact absurd hrb (hapart y q b hq hqb)
    · obtain hr | ⟨rfl, -⟩ := (hactive z r).mp hr
      · exact absurd hqb (hapart z r b hr hrb)
      · rfl
  · intro b hb
    by_cases hp : p.Names b
    · exact ⟨x, p, (hactive x p).mpr (.inr ⟨rfl, rfl⟩), hp⟩
    · obtain ⟨y, q, hq, hqb⟩ := h.justified b (hb.congr (hothers b hp).symm)
      exact ⟨y, q, (hactive y q).mpr (.inl hq), hqb⟩

/-- An exchange closes and frees its books. -/
theorem closed (h : s.Consistent) (hp : s.Active x p)
    (hactive : ∀ y q, t.Active y q ↔ s.Active y q ∧ y ≠ x)
    (hothers : ∀ b, ¬ p.Names b → t.books.get? b = s.books.get? b)
    (hfreed : ∀ b, p.Names b → ¬ t.IsReserved b) : t.Consistent := by
  constructor
  · intro y q hq
    exact h.distinct y q ((hactive y q).mp hq).1
  · intro y q b u hq hb
    obtain ⟨hq, hne⟩ := (hactive y q).mp hq
    have hpb : ¬ p.Names b := fun hpb => hne (h.unique y x q p b hq hp hb.names hpb)
    exact (h.held y q b u hq hb).congr (hothers b hpb)
  · intro y z q r b hq hr
    exact h.unique y z q r b ((hactive y q).mp hq).1 ((hactive z r).mp hr).1
  · intro b hb
    have hpb : ¬ p.Names b := fun hpb => hfreed b hpb hb
    obtain ⟨y, q, hq, hqb⟩ := h.justified b (hb.congr (hothers b hpb).symm)
    have hne : y ≠ x := by
      intro heq
      subst heq
      exact hpb (hp.terms_unique hq ▸ hqb)
    exact ⟨y, q, (hactive y q).mpr ⟨hq, hne⟩, hqb⟩

end Consistent

/-! What the statements do to reservations. -/

theorem active_close {f : Time → ExchangeRow → ExchangeRow}
    (hf : ∀ now row, (f now row).isActive = false) {y : ExchangeId} {q : Exchange.Proposal} :
    (s.setExchange x f).Active y q ↔ s.Active y q ∧ y ≠ x := by
  by_cases hy : y = x
  · subst hy
    simp [Active, hf]
  · simp [Active, hy]

theorem active_accept {row : ExchangeRow} (found : s.exchanges.get? x = some row)
    (pending : row.status = .known .pending) :
    (s.setExchange x .accept).Active = s.Active := by
  funext y q
  by_cases hy : y = x
  · subst hy
    simp [Active, found, ExchangeRow.isActive, pending, ExchangeRow.accept,
      Exchange.Status.isActive, ExchangeRow.terms]
  · simp [Active, hy]

theorem heldFrom_reserve {b : BookId} {u : UserId} {book : BookRow}
    (found : s.books.get? b = some book) (owned : book.owner = u) (live : book.isLive) :
    (s.setBook b .reserve).HeldFrom b u :=
  ⟨book.reserve s.clock, by simp [found], rfl, live, owned⟩

theorem isReserved_setBook (f : Time → BookRow → BookRow)
    (hf : ∀ now row, (f now row).status = row.status) {id b : BookId} :
    (s.setBook id f).IsReserved b ↔ s.IsReserved b := by
  by_cases hb : b = id <;> simp [IsReserved, hb, hf]

theorem isReserved_release {id b : BookId} :
    (s.setBook id .release).IsReserved b ↔ s.IsReserved b ∧ b ≠ id := by
  by_cases hb : b = id
  · subst hb
    simp [IsReserved, BookRow.release]
  · simp [IsReserved, hb]

theorem isReserved_transfer {id b : BookId} {owner : UserId} :
    (s.setBook id (.transfer owner)).IsReserved b ↔ s.IsReserved b :=
  isReserved_setBook (.transfer owner) fun _ _ => rfl

theorem isReserved_reserve {id b : BookId} :
    (s.setBook id .reserve).IsReserved b ↔
      s.IsReserved b ∨ b = id ∧ (s.books.get? b).isSome := by
  by_cases hb : b = id
  · subst hb
    cases found : s.books.get? b <;> simp [IsReserved, found, BookRow.reserve]
  · simp [IsReserved, hb]

theorem not_isReserved_of_isFree {b : BookId} {book : BookRow} (found : s.books.get? b = some book)
    (free : book.isFree) : ¬ s.IsReserved b := by
  intro hres
  obtain ⟨book', hbook, hstatus⟩ := hres
  rw [found] at hbook
  cases hbook
  simp [BookRow.isFree, hstatus] at free

theorem Active.busy {b : BookId} {u : UserId} (h : s.Active x p) (hb : p.Brings b u) :
    s.hasActiveExchange u = true := by
  obtain ⟨row, hrow, hactive, rfl⟩ := h
  have hnames : row.names u := by
    obtain ⟨-, h⟩ | ⟨-, h⟩ := hb <;> simp [ExchangeRow.names, ← h, ExchangeRow.terms]
  exact List.any_eq_true.mpr ⟨(x, row), Table.mem_entries.mpr hrow, by simp [hnames, hactive]⟩

/-- The owner of a reserved book is in an active exchange. -/
theorem Consistent.busy {b : BookId} {book : BookRow} (h : s.Consistent)
    (found : s.books.get? b = some book) (hs : book.status = .known .reserved) :
    s.hasActiveExchange book.owner = true := by
  obtain ⟨x, p, hp, hb⟩ := h.justified b ⟨book, found, hs⟩
  obtain ⟨u, hu⟩ := hb.brings
  obtain ⟨book', hbook, -, -, rfl⟩ := h.held x p b u hp hu
  rw [found] at hbook
  cases hbook
  exact hp.busy hu

end Store

namespace Market
variable {s t : Store} {p : Port}

/-- The exchange that the port is given has the parties and the books of its row. -/
def Port.Fits (s : Store) : Port → Prop
  | .acceptExchange e | .completeExchange e | .cancelExchange e =>
    ∃ row, s.exchanges.get? e.id = some row ∧ row.terms = e.terms
  | .reserve _ | .release _ | .transfer _ _ => False
  | _ => True

/-- An exchange is completed while it is active. -/
theorem active_of_completeExchange {e : Exchange} (fits : (Port.completeExchange e).Fits s)
    (hw : (Port.completeExchange e).Writes s t) : s.Active e.id e.terms := by
  obtain ⟨row, hrow, hterms⟩ := fits
  cases hw with
  | completeExchange found accepted =>
    rw [hrow] at found
    cases found
    exact Store.active_of_get? hrow accepted rfl hterms

theorem active_of_cancelExchange {e : Exchange} (fits : (Port.cancelExchange e).Fits s)
    (hw : (Port.cancelExchange e).Writes s t) : s.Active e.id e.terms := by
  obtain ⟨row, hrow, hterms⟩ := fits
  cases hw with
  | cancelExchange found pending =>
    rw [hrow] at found
    cases found
    exact Store.active_of_get? hrow pending rfl hterms

/-! Each port keeps books and exchanges in agreement. -/

theorem consistent_removeUser {id : UserId} (h : s.Consistent)
    (hw : (Port.removeUser id).Writes s t) : t.Consistent := by
  cases hw with
  | removeUser found live idle =>
    refine h.of_books rfl ?_ ?_
    · intro b u hheld
      obtain ⟨book, hbook, hs, hlive, rfl⟩ := hheld
      have howner : book.owner ≠ id := by
        intro heq
        subst heq
        simp [h.busy hbook hs] at idle
      refine ⟨book, ?_, hs, hlive, rfl⟩
      simp [Table.get?_map, hbook, BookRow.withdraw, howner]
    · intro b hres
      obtain ⟨book, hbook, hs⟩ := hres
      simp only [Table.get?_map, Option.map_eq_some_iff] at hbook
      obtain ⟨book', hbook', rfl⟩ := hbook
      refine ⟨book', hbook', ?_⟩
      unfold BookRow.withdraw at hs
      split at hs <;> exact hs

theorem consistent_insertBook {e : Book.Entry} (h : s.Consistent)
    (hw : (Port.insertBook e).Writes s t) : t.Consistent := by
  cases hw
  refine h.of_books rfl ?_ ?_
  · intro b u hheld
    obtain ⟨book, hbook, h⟩ := hheld
    have hne : b ≠ s.books.nextId := Int.ne_of_lt (Table.lt_nextId hbook)
    exact ⟨book, by simp [Table.get?_insert, hne, hbook], h⟩
  · intro b hres
    obtain ⟨book, hbook, hs⟩ := hres
    by_cases hb : b = s.books.nextId
    · simp only [Store.tick_books, Table.get?_insert, hb, ↓reduceIte, Option.some.injEq] at hbook
      simp [← hbook, Book.Entry.row] at hs
    · exact ⟨book, by simpa [Table.get?_insert, hb] using hbook, hs⟩

theorem consistent_describe {id : BookId} {description : String} (h : s.Consistent)
    (hw : (Port.describe id description).Writes s t) : t.Consistent := by
  cases hw
  refine h.of_books rfl ?_ ?_
  · intro b u hheld
    obtain ⟨book, hbook, h⟩ := hheld
    by_cases hb : b = id
    · exact ⟨book.describe description s.clock, by simp [hb ▸ hbook, hb], h⟩
    · exact ⟨book, by simp [hb, hbook], h⟩
  · exact fun b hres => (Store.isReserved_setBook (.describe description) fun _ _ => rfl).mp hres

theorem consistent_removeBook {id : BookId} (h : s.Consistent)
    (hw : (Port.removeBook id).Writes s t) : t.Consistent := by
  cases hw with
  | removeBook found free =>
    refine h.of_books rfl ?_ ?_
    · intro b u hheld
      have hb : b ≠ id := by
        intro heq
        subst heq
        exact Store.not_isReserved_of_isFree found free hheld.isReserved
      exact hheld.congr (by simp [hb])
    · exact fun b hres => (Store.isReserved_setBook .remove fun _ _ => rfl).mp hres

theorem consistent_insertExchange {q : Exchange.Proposal} (h : s.Consistent)
    (hw : (Port.insertExchange q).Writes s t) : t.Consistent := by
  cases hw with
  | @insertExchange q mine theirs mineFound mineOwned mineFree theirsFound theirsOwned theirsFree books
      parties =>
    have hfresh : ∀ r, ¬ s.Active s.exchanges.nextId r := by
      intro r hactive
      obtain ⟨row, hrow, -⟩ := hactive
      simp [Table.get?_nextId] at hrow
    refine h.opened hfresh ?_ ⟨parties, books⟩ ?_ ?_ ?_
    · intro y r
      by_cases hy : y = s.exchanges.nextId
      · subst hy
        have hterms : (q.row (s.clock + 2)).terms = r ↔ r = q := eq_comm
        simp [Store.Active, Table.get?_insert, Table.get?_nextId, ExchangeRow.isActive,
          Exchange.Proposal.row, Exchange.Status.isActive, ← hterms]
      · simp [Store.Active, Table.get?_insert, hy]
    · intro b hb
      obtain ⟨hmine, htheirs⟩ := Exchange.Proposal.ne_of_not_names hb
      simp [hmine, htheirs]
    · intro b hb
      obtain rfl | rfl := hb
      · exact Store.not_isReserved_of_isFree mineFound mineFree
      · exact Store.not_isReserved_of_isFree theirsFound theirsFree
    · simp only [BookRow.isFree, Bool.and_eq_true] at mineFree theirsFree
      intro b u hb
      obtain ⟨rfl, rfl⟩ | ⟨rfl, rfl⟩ := hb
      · have hheld := Store.heldFrom_reserve mineFound mineOwned mineFree.2
        exact hheld.congr (by simp [books])
      · have hfound : (s.setBook q.initiatorBook .reserve).books.get? q.recipientBook =
            some theirs := by
          simpa [books.symm] using theirsFound
        exact (Store.heldFrom_reserve hfound theirsOwned theirsFree.2).congr rfl

theorem consistent_acceptExchange {e : Exchange} (h : s.Consistent)
    (hw : (Port.acceptExchange e).Writes s t) : t.Consistent := by
  cases hw with
  | acceptExchange found pending =>
    have hactive := Store.active_accept found pending
    exact ⟨hactive ▸ h.distinct, hactive ▸ h.held, hactive ▸ h.unique, hactive ▸ h.justified⟩

theorem consistent_completeExchange {e : Exchange} (h : s.Consistent)
    (fits : (Port.completeExchange e).Fits s) (hw : (Port.completeExchange e).Writes s t) :
    t.Consistent := by
  have hp := active_of_completeExchange fits hw
  cases hw
  refine h.closed hp (fun y q => Store.active_close fun _ _ => rfl) ?_ ?_
  · intro b hb
    obtain ⟨hmine, htheirs⟩ : b ≠ e.initiatorBook ∧ b ≠ e.recipientBook :=
      Exchange.Proposal.ne_of_not_names hb
    simp [hmine, htheirs]
  · intro b hb hres
    obtain rfl | rfl := hb <;> simp [Store.isReserved_release, Exchange.terms] at hres

theorem consistent_cancelExchange {e : Exchange} (h : s.Consistent)
    (fits : (Port.cancelExchange e).Fits s) (hw : (Port.cancelExchange e).Writes s t) :
    t.Consistent := by
  have hp := active_of_cancelExchange fits hw
  cases hw
  refine h.closed hp (fun y q => Store.active_close fun _ _ => rfl) ?_ ?_
  · intro b hb
    obtain ⟨hmine, htheirs⟩ : b ≠ e.initiatorBook ∧ b ≠ e.recipientBook :=
      Exchange.Proposal.ne_of_not_names hb
    simp [hmine, htheirs]
  · intro b hb hres
    obtain rfl | rfl := hb <;> simp [Store.isReserved_release, Exchange.terms] at hres

theorem Port.Writes.consistent (hw : p.Writes s t) (h : s.Consistent) (fits : p.Fits s) :
    t.Consistent := by
  cases p with
  | removeUser id => exact consistent_removeUser h hw
  | insertBook e => exact consistent_insertBook h hw
  | describe id description => exact consistent_describe h hw
  | removeBook id => exact consistent_removeBook h hw
  | reserve id => exact fits.elim
  | release id => exact fits.elim
  | transfer id owner => exact fits.elim
  | insertExchange q => exact consistent_insertExchange h hw
  | acceptExchange e => exact consistent_acceptExchange h hw
  | completeExchange e => exact consistent_completeExchange h fits hw
  | cancelExchange e => exact consistent_cancelExchange h fits hw
  | _ =>
    cases hw
    exact h.of_books rfl (fun _ _ h => h) fun _ h => h

section Run
variable {log : List Event}

/-- However old a snapshot is, the row has kept its parties and its books. -/
theorem Run.fits (run : Run Command.Raced .fresh log s) (raced : p.Raced (seen log s)) : p.Fits s := by
  have hshown : ∀ e, (∃ t ∈ seen log s, t.Shows e) →
      ∃ row, s.exchanges.get? e.id = some row ∧ row.terms = e.terms := by
    intro e hshown
    obtain ⟨t, ht, hshows⟩ := hshown
    obtain ⟨row, hrow, hterms⟩ := hshows.terms
    obtain ⟨row', hrow', hkeeps⟩ := run.kept ht e.id row hrow
    exact ⟨row', hrow', hkeeps.terms.trans hterms⟩
  cases p with
  | acceptExchange e => exact hshown e raced
  | completeExchange e => exact hshown e raced
  | cancelExchange e => exact hshown e raced
  | _ => exact raced

theorem Run.consistent (run : Run Command.Raced .fresh log s) : s.Consistent :=
  run.preserves_written Store.consistent_fresh fun run ok calls hw consistent =>
    hw.consistent consistent (run.fits (calls.raced ok mem_seen))

/-- A book is reserved exactly while a pending or accepted exchange has it. That exchange is the only
one, it has the book in one role, and the book is not deleted. -/
theorem Run.reserved_iff_held (run : Run Command.Raced .fresh log s) (b : BookId) :
    (s.IsReserved b ↔ ∃ x q, s.Active x q ∧ q.Names b) ∧
      ∀ x q, s.Active x q → q.Names b →
        (∀ y r, s.Active y r → r.Names b → y = x) ∧
        (q.initiatorBook = b ↔ q.recipientBook ≠ b) ∧ (s.liveBook? b).isSome := by
  have h := run.consistent
  refine ⟨⟨h.justified b, ?_⟩, ?_⟩
  · intro hheld
    obtain ⟨x, q, hq, hb⟩ := hheld
    obtain ⟨u, hu⟩ := hb.brings
    exact (h.held x q b u hq hu).isReserved
  · intro x q hq hb
    refine ⟨fun y r hr hrb => h.unique y x r q b hr hq hrb hb, ?_, ?_⟩
    · have hne := (h.distinct x q hq).2
      constructor
      · intro hmine htheirs
        exact hne (hmine.trans htheirs.symm)
      · exact fun hn => hb.resolve_right hn
    · obtain ⟨u, hu⟩ := hb.brings
      obtain ⟨book, hbook, -, hlive, -⟩ := h.held x q b u hq hu
      simp [Store.liveBook?_eq_some.mpr ⟨hbook, hlive⟩]

theorem Run.reserved_iff_held_opening :
    (follow .fresh opening).2.IsReserved 1 ∧
      ∃ x q, (follow .fresh opening).2.Active x q ∧ q.Names 1 := by
  have hreserved : (follow .fresh opening).2.IsReserved 1 := by
    have h : ((follow .fresh opening).2.books.get? 1).map (·.status) = some (.known .reserved) := by
      decide +kernel
    exact Option.map_eq_some_iff.mp h
  exact ⟨hreserved, (Run.reserved_iff_held run_opening 1).1.mp hreserved⟩

end Run

end Market

end BookExchange
