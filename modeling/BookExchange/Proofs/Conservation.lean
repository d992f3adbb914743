import BookExchange.Proofs.Closure
import BookExchange.Proofs.Counting
import BookExchange.Proofs.Filing
import BookExchange.Proofs.Independence
import BookExchange.Proofs.Searching
import BookExchange.Proofs.Staleness
import BookExchange.Proofs.Tombstones

/-! What is counted for a user, and what changes it: the live books, which users list and withdraw
and which exchanges only swap one for one; and the completed exchanges, which two users have in
common each. -/
namespace BookExchange
open Call

/-- A live book of the user. -/
def BookRow.isHeldBy (u : UserId) (b : BookRow) : Bool := b.isLive && b.owner == u

def ExchangeRow.isCompleted (e : ExchangeRow) : Bool := e.status == .known .completed

/-- A completed exchange of the user. -/
def ExchangeRow.credits (u : UserId) (e : ExchangeRow) : Bool := e.isCompleted && e.names u

namespace Store
variable {s t : Store} {u : UserId}

/-- How many live books the user owns. -/
def booksHeld (s : Store) (u : UserId) : Nat := s.books.count (·.isHeldBy u)

theorem booksHeld_setBook {id : BookId} {f : Time → BookRow → BookRow}
    (h : ∀ now row, (f now row).isHeldBy u = row.isHeldBy u) :
    (s.setBook id f).booksHeld u = s.booksHeld u :=
  Table.count_modify_of_eq _ _ (h s.clock)

@[simp] theorem booksHeld_reserve {id : BookId} :
    (s.setBook id .reserve).booksHeld u = s.booksHeld u :=
  booksHeld_setBook fun _ _ => rfl

@[simp] theorem booksHeld_release {id : BookId} :
    (s.setBook id .release).booksHeld u = s.booksHeld u :=
  booksHeld_setBook fun _ _ => rfl

@[simp] theorem booksHeld_setExchange {x : ExchangeId} {f : Time → ExchangeRow → ExchangeRow} :
    (s.setExchange x f).booksHeld u = s.booksHeld u := rfl

/-- A book leaves its owner's count and enters the new owner's. -/
theorem booksHeld_transfer {b : BookId} {owner : UserId} (held : s.HeldFrom b owner)
    (owner' u : UserId) : (s.setBook b (.transfer owner')).booksHeld u + (owner == u).toNat =
      s.booksHeld u + (owner' == u).toNat := by
  obtain ⟨row, found, -, live, rfl⟩ := held
  have hbefore : row.isHeldBy u = (row.owner == u) := by simp [BookRow.isHeldBy, live]
  have hafter : (row.transfer owner' s.clock).isHeldBy u = (owner' == u) :=
    congrArg (· && owner' == u) live
  rw [← hbefore, ← hafter]
  exact Table.count_modify_of_get? found _ _

theorem completedOf_setExchange {x : ExchangeId} {f : Time → ExchangeRow → ExchangeRow}
    {row : ExchangeRow} (found : s.exchanges.get? x = some row) (u : UserId) :
    (s.setExchange x f).completedOf u + (row.credits u).toNat =
      s.completedOf u + ((f s.clock row).credits u).toNat :=
  Table.count_modify_of_get? found (f s.clock) (·.credits u)

end Store

namespace Market
variable {s t : Store} {p : Port} {u : UserId}

namespace Port

/-- The port gives the user a book that was nobody's. -/
def lists (p : Port) (u : UserId) : Bool :=
  match p with
  | .insertBook e => e.owner == u
  | _ => false

/-- The port takes a book away from the user. -/
def withdraws (s : Store) (p : Port) (u : UserId) : Bool :=
  match p with
  | .removeBook id => s.ownerOf id == some u
  | _ => false

/-- The port completes an exchange of the user. -/
def credits (p : Port) (u : UserId) : Bool :=
  match p with
  | .completeExchange e => e.initiator == u || e.recipient == u
  | _ => false

end Port

/-! Live books. -/

theorem booksHeld_removeUser {id : UserId} (h : (Port.removeUser id).Writes s t) (hu : u ≠ id) :
    t.booksHeld u = s.booksHeld u := by
  cases h
  refine s.books.count_map _ fun row => ?_
  unfold BookRow.withdraw
  split
  · rename_i hrow
    have hother : (row.owner == u) = false := by simp [hrow.1, Ne.symm hu]
    simp only [BookRow.isHeldBy, hother, Bool.and_false]
  · rfl

theorem booksHeld_insertBook {e : Book.Entry} (h : (Port.insertBook e).Writes s t) (u : UserId) :
    t.booksHeld u = s.booksHeld u + (e.owner == u).toNat := by
  cases h
  exact s.books.count_insert _ _

theorem booksHeld_removeBook {id : BookId} (h : (Port.removeBook id).Writes s t) (u : UserId) :
    t.booksHeld u + (s.ownerOf id == some u).toNat = s.booksHeld u := by
  cases h with
  | @removeBook _ row found free =>
    simp only [BookRow.isFree, Bool.and_eq_true] at free
    have hbefore : row.isHeldBy u = (s.ownerOf id == some u) := by
      simp [BookRow.isHeldBy, free.2, Store.ownerOf, found]
    rw [← hbefore]
    exact Table.count_modify_of_get? found (.remove s.clock) _

/-- Each party gives one book and gets one. -/
theorem booksHeld_completeExchange {e : Exchange} (consistent : s.Consistent)
    (fits : (Port.completeExchange e).Fits s) (h : (Port.completeExchange e).Writes s t)
    (u : UserId) : t.booksHeld u = s.booksHeld u := by
  have hactive := active_of_completeExchange fits h
  have hbooks : e.initiatorBook ≠ e.recipientBook := (consistent.distinct _ _ hactive).2
  have hmine := consistent.held _ _ e.initiatorBook e.initiator hactive (.inl ⟨rfl, rfl⟩)
  have htheirs := consistent.held _ _ e.recipientBook e.recipient hactive (.inr ⟨rfl, rfl⟩)
  cases h
  have hmine' : (s.setExchange e.id (.complete e.completedAt)).HeldFrom e.initiatorBook e.initiator :=
    hmine.congr rfl
  have htheirs' : ((s.setExchange e.id (.complete e.completedAt)).setBook e.initiatorBook
      (.transfer e.recipient)).HeldFrom e.recipientBook e.recipient :=
    htheirs.congr (by simp [hbooks.symm])
  have hgive := Store.booksHeld_transfer hmine' e.recipient u
  have hget := Store.booksHeld_transfer htheirs' e.initiator u
  simp only [Store.booksHeld_release, Store.booksHeld_setExchange] at hgive hget ⊢
  omega

theorem Port.Writes.booksHeld (h : p.Writes s t) (fits : p.Fits s) (consistent : s.Consistent)
    (stays : p ≠ .removeUser u) :
    t.booksHeld u + (p.withdraws s u).toNat = s.booksHeld u + (p.lists u).toNat := by
  cases p with
  | removeUser id => exact booksHeld_removeUser h fun hu => stays (hu ▸ rfl)
  | insertBook e => exact booksHeld_insertBook h u
  | removeBook id => exact booksHeld_removeBook h u
  | describe id description =>
    cases h
    exact Store.booksHeld_setBook fun _ _ => rfl
  | reserve | release | transfer => exact fits.elim
  | completeExchange e => exact booksHeld_completeExchange consistent fits h u
  | insertExchange q =>
    cases h
    exact Store.booksHeld_reserve.trans Store.booksHeld_reserve
  | cancelExchange e =>
    cases h
    exact Store.booksHeld_release.trans Store.booksHeld_release
  | _ =>
    cases h
    rfl

/-! Completed exchanges. -/

theorem not_credits {row : ExchangeRow} (h : row.status ≠ .known .completed) :
    row.credits u = false := by
  simp [ExchangeRow.credits, ExchangeRow.isCompleted, h]

theorem completedOf_completeExchange {e : Exchange} (fits : (Port.completeExchange e).Fits s)
    (h : (Port.completeExchange e).Writes s t) (u : UserId) :
    t.completedOf u = s.completedOf u + (e.initiator == u || e.recipient == u).toNat := by
  obtain ⟨row, hrow, hterms⟩ := fits
  cases h with
  | completeExchange found accepted =>
    cases hrow.symm.trans found
    have hcount := Store.completedOf_setExchange (f := .complete e.completedAt) hrow u
    have hnames : (row.complete e.completedAt s.clock).credits u =
        (e.initiator == u || e.recipient == u) := by
      simp only [ExchangeRow.terms, Exchange.terms, Exchange.Proposal.mk.injEq] at hterms
      simp [ExchangeRow.credits, ExchangeRow.isCompleted, ExchangeRow.complete, ExchangeRow.names,
        hterms.1, hterms.2.1]
    rw [not_credits (by simp [accepted]), hnames] at hcount
    exact hcount

theorem Port.Writes.completedOf (h : p.Writes s t) (fits : p.Fits s) (u : UserId) :
    t.completedOf u = s.completedOf u + (p.credits u).toNat := by
  cases p with
  | completeExchange e => exact completedOf_completeExchange fits h u
  | insertExchange q =>
    cases h
    exact s.exchanges.count_insert (q.row (s.clock + 2)) (·.credits u)
  | acceptExchange e =>
    cases h with
    | acceptExchange found pending =>
      have hcount := Store.completedOf_setExchange (f := .accept) found u
      rw [not_credits (by simp [pending]), not_credits (by simp [ExchangeRow.accept])] at hcount
      exact hcount
  | cancelExchange e =>
    cases h with
    | cancelExchange found pending =>
      have hcount := Store.completedOf_setExchange (f := .cancel) found u
      rw [not_credits (by simp [pending]), not_credits (by simp [ExchangeRow.cancel])] at hcount
      exact hcount
  | _ =>
    cases h
    rfl

/-! Services. -/

/-- The user for whom a book is listed. -/
def Command.lister? : Command → Option UserId
  | .service _ (.createBook owner _) => some owner
  | _ => none

/-- The user by whom a book is deleted. -/
def Command.withdrawer? : Command → Option UserId
  | .service _ (.deleteBook _ actor) => some actor
  | _ => none

/-- The event is a success of the user. -/
def Event.counts (who : Command → Option UserId) (u : UserId) (v : Event) : Bool :=
  v.answer.isOk && who v.command == some u

/-- How many of the calls have succeeded for the user. -/
def successes (who : Command → Option UserId) (log : List Event) (u : UserId) : Nat :=
  log.countP (·.counts who u)

/-- The operation is about an exchange and may write. -/
def Operation.isTrade : Operation → Bool
  | .createExchange _ _ | .acceptExchange _ _ | .completeExchange _ _ | .cancelExchange _ _ => true
  | _ => false

variable {summarize : String → String} {op : Operation} {log : List Event} {v : Event}

theorem successes_cons (who : Command → Option UserId) :
    successes who (v :: log) u = successes who log u + (v.counts who u).toNat := by
  cases h : v.counts who u <;> simp [successes, h]

theorem successes_concat (who : Command → Option UserId) :
    successes who (log ++ [v]) u = successes who log u + (v.counts who u).toNat := by
  cases h : v.counts who u <;> simp [successes, List.countP_append, h]

theorem Event.counts_of_error {who : Command → Option UserId} {f : Failure}
    (h : v.answer = .error f) : v.counts who u = false := by
  simp [counts, h, Except.isOk, Except.toBool]

theorem Event.counts_of_none {who : Command → Option UserId} (h : who v.command = none) :
    v.counts who u = false := by
  simp [counts, h]

theorem Event.counts_of_ok {who : Command → Option UserId} {a : Answer} (h : v.answer = .ok a) :
    v.counts who u = (who v.command == some u) := by
  simp [counts, h, Except.isOk, Except.toBool]

namespace Command.Calls
variable {c : Command} (service : c.IsService)
include service

/-- A service moves an exchange on as the store shows it. -/
theorem fits (h : c.Calls s p) : p.Fits s := by
  cases h with
  | port => exact service.elim
  | service reached =>
    have hshows := reached.shows
    cases reached with
    | acceptExchange | completeExchange | cancelExchange => exact hshows.terms
    | _ => trivial

theorem lists (h : c.Calls s p) : p.lists u = (c.lister? == some u) := by
  cases h with
  | port => exact service.elim
  | service reached =>
    cases reached with
    | createBook => simp [Port.lists, Command.lister?, Book.Offer.entry]
    | _ => rfl

theorem withdraws (h : c.Calls s p) : p.withdraws s u = (c.withdrawer? == some u) := by
  cases h with
  | port => exact service.elim
  | service reached =>
    cases reached with
    | deleteBook found => simp [Port.withdraws, Command.withdrawer?, Store.ownerOf_of_book? found]
    | _ => rfl

end Command.Calls

theorem closed_of_removeUser (h : (Port.removeUser u).Writes s t) : t.IsClosed u := by
  cases h with
  | @removeUser _ row found =>
    have hrow : (s.users.modify u (.remove s.clock)).get? u = some (row.remove s.clock) := by
      rw [Table.get?_modify, if_pos rfl, found]
      rfl
    exact ⟨_, hrow, rfl⟩

theorem Port.Writes.closed_kept (h : p.Writes s t) (closed : s.IsClosed u) : t.IsClosed u := by
  obtain ⟨row, found, hlive⟩ := closed
  exact ⟨row, h.closed_row found hlive, hlive⟩

theorem lister?_of_isQuery {c : Command} (h : c.isQuery) :
    c.lister? = none ∧ c.withdrawer? = none := by
  cases c with
  | service summarize op => cases op <;> first | exact ⟨rfl, rfl⟩ | cases h
  | port p => cases h

/-- What a call of a service lists and withdraws for a user whose account stays open. -/
theorem booksHeld_after (service : v.command.IsService) (consistent : v.store.Consistent)
    (opened : ¬ v.after.IsClosed u) :
    v.after.booksHeld u + (v.counts Command.withdrawer? u).toNat =
      v.store.booksHeld u + (v.counts Command.lister? u).toNat := by
  have hwritten : ∀ p, v.command.Calls v.store p → p.Writes v.store v.after →
      v.after.booksHeld u + (p.withdraws v.store u).toNat =
        v.store.booksHeld u + (p.lists u).toNat := by
    intro p calls hw
    refine hw.booksHeld (calls.fits service) consistent fun hp => ?_
    exact opened (closed_of_removeUser (hp ▸ hw))
  cases v.command.cases v.store with
  | fails failed unchanged =>
    rw [Event.counts_of_error failed, Event.counts_of_error failed]
    exact congrArg (Store.booksHeld · u) unchanged
  | looks query unchanged =>
    obtain ⟨hlister, hwithdrawer⟩ := lister?_of_isQuery query
    rw [Event.counts_of_none hlister, Event.counts_of_none hwithdrawer]
    exact congrArg (Store.booksHeld · u) unchanged
  | writes calls answered =>
    have hanswer := Event.answer_of_calls calls answered
    rw [Event.counts_of_ok hanswer, Event.counts_of_ok hanswer, ← calls.lists service,
      ← calls.withdraws service]
    exact hwritten _ calls (Port.writes_of_ok answered)
  | describes calls failed written =>
    rw [Event.counts_of_error failed, Event.counts_of_error failed]
    exact hwritten _ calls written

theorem Run.books_counted (run : Run (fun _ => Command.IsService) .fresh log s)
    (opened : ¬ s.IsClosed u) :
    s.booksHeld u + successes Command.withdrawer? log u = successes Command.lister? log u := by
  induction run with
  | start => rfl
  | @step log s c run ok ih =>
    have hbefore : ¬ s.IsClosed u := fun closed =>
      opened (c.after_keeps (P := (·.IsClosed u)) closed fun _ hw => hw.closed_kept closed)
    have hcounted := ih hbefore
    have hstep := booksHeld_after (v := ⟨s, c⟩) ok run.raced.consistent opened
    change (c.after s).booksHeld u + _ = s.booksHeld u + _ at hstep
    rw [successes_concat, successes_concat]
    omega

/-- A call about an exchange leaves everybody's number of books. -/
theorem booksHeld_after_trade (consistent : s.Consistent) (trade : op.isTrade) (u : UserId) :
    ((Command.service summarize op).after s).booksHeld u = s.booksHeld u := by
  have service : (Command.service summarize op).IsService := trivial
  obtain h | ⟨p, calls, hw⟩ := (Command.service summarize op).after_cases s
  · rw [h]
  · have hheld := fun stays => hw.booksHeld (u := u) (calls.fits service) consistent stays
    cases calls with
    | service reached =>
      cases reached with
      | createExchange | acceptExchange | completeExchange | cancelExchange =>
        exact hheld (by simp)
      | _ => cases trade

theorem credits_of_completes? (h : (Command.port p).completes? = none) : p.credits u = false := by
  cases p with
  | completeExchange e => cases h
  | _ => rfl

/-- A call that completes nothing leaves everybody's number of completed exchanges. -/
theorem completedOf_after (service : v.command.IsService) (other : v.completed? = none)
    (u : UserId) : v.after.completedOf u = v.store.completedOf u := by
  cases v.command.cases v.store with
  | fails failed unchanged => exact congrArg (Store.completedOf · u) unchanged
  | looks query unchanged => exact congrArg (Store.completedOf · u) unchanged
  | writes calls answered =>
    rw [Event.completed?_of_ok (Event.answer_of_calls calls answered), calls.completes?] at other
    have hcount := (Port.writes_of_ok answered).completedOf (calls.fits service) u
    rwa [credits_of_completes? other] at hcount
  | describes calls failed written => exact written.completedOf (calls.fits service) u

/-- A call that completes an exchange counts for its two parties. -/
theorem completedOf_after_completion (service : v.command.IsService)
    (consistent : v.store.Consistent) {x : ExchangeId} (done : v.completed? = some x) :
    ∃ row, v.store.exchanges.get? x = some row ∧ row.initiator ≠ row.recipient ∧
      ∀ u, v.after.completedOf u = v.store.completedOf u + (row.names u).toNat := by
  cases v.effect fun p calls => calls.fits service with
  | creates _ completed => simp [done] at completed
  | neither _ completed => simp [done] at completed
  | @completes e _ completed fits written =>
    cases done.symm.trans completed
    have hdistinct := (consistent.distinct _ _ (active_of_completeExchange fits written)).1
    obtain ⟨row, found, hterms⟩ := fits
    rw [← hterms] at hdistinct
    refine ⟨row, found, hdistinct, fun u => ?_⟩
    have hcount := completedOf_completeExchange ⟨row, found, hterms⟩ written u
    have hparties : e.initiator = row.initiator ∧ e.recipient = row.recipient :=
      ⟨congrArg Exchange.Proposal.initiator hterms.symm, congrArg Exchange.Proposal.recipient hterms.symm⟩
    rwa [hparties.1, hparties.2] at hcount

/-! The sum over all users. -/

end Market

namespace Store
variable {s : Store}

/-- The parties of every exchange are two users. -/
def Parted (s : Store) : Prop :=
  ∀ x row, s.exchanges.get? x = some row → row.initiator ≠ row.recipient

/-- Two users have rows under which an exchange is counted. -/
theorem countP_names {row : ExchangeRow} (parties : row.initiator ≠ row.recipient)
    (backed : s.Backs row.terms) : s.users.entries.countP (fun e => row.names e.1) = 2 := by
  have hinitiator := s.users.countP_id row.initiator
  have hrecipient := s.users.countP_id row.recipient
  have hknown : (s.users.get? row.initiator).isSome ∧ (s.users.get? row.recipient).isSome :=
    ⟨backed.initiator, backed.recipient⟩
  rw [hknown.1] at hinitiator
  rw [hknown.2] at hrecipient
  have hapart : ∀ e ∈ s.users.entries, (row.initiator == e.1) = true →
      (row.recipient == e.1) = false := by
    intro e _ he
    rw [beq_iff_eq] at he
    simpa [← he] using parties.symm
  exact (Table.countP_or hapart).trans (by rw [hinitiator, hrecipient]; rfl)

/-- Every completed exchange is counted twice. -/
theorem sum_completedOf (backed : s.Backed) (parted : s.Parted) :
    (s.users.entries.map fun e => s.completedOf e.1).sum =
      2 * s.exchanges.count (·.isCompleted) := by
  have hswap : (s.users.entries.map fun e => s.completedOf e.1).sum =
      (s.exchanges.entries.map fun x => s.users.entries.countP fun e => x.2.credits e.1).sum :=
    Table.sum_countP_comm s.users.entries s.exchanges.entries fun e x => x.2.credits e.1
  rw [hswap]
  refine Table.sum_map_eq_mul_countP fun x hx => ?_
  have found := Table.mem_entries.mp hx
  have hnames := countP_names (parted _ _ found) (backed _ _ found)
  cases hdone : x.2.isCompleted <;> simp [ExchangeRow.credits, hdone, hnames]

end Store

namespace Market
variable {s t : Store} {p : Port} {log : List Event}

theorem Port.Writes.parted (h : p.Writes s t) (parted : s.Parted) : t.Parted := by
  intro x row found
  obtain ⟨row', found', hterms⟩ | rfl := h.terms_cases found
  · have hrow : row'.terms.initiator ≠ row'.terms.recipient := parted x row' found'
    rw [hterms] at hrow
    exact hrow
  · cases h with
    | insertExchange _ _ _ _ _ _ _ parties => exact parties

theorem Run.parted {allowed : List Store → Command → Prop} (run : Run allowed .fresh log s) :
    s.Parted :=
  run.preserves (P := Store.Parted) (by simp [Store.Parted, Store.fresh]) fun _ c parted =>
    c.after_keeps parted fun _ hw => hw.parted parted

/-- The profile of the user is answered and is such, if one query can read the books; of a user with
more books none is. -/
structure Profiled (s : Store) (u : UserId) (P : User.Profile → Prop) : Prop where
  answered (summarize : String → String) (few : s.booksHeld u ≤ Store.variableLimit) : ∃ shown,
    (Command.service summarize (.profile u)).answer s = .ok (.profile shown) ∧ P shown
  refused (summarize : String → String) (many : Store.variableLimit < s.booksHeld u) :
    (Command.service summarize (.profile u)).answer s = .error (.storage .tooManyVariables)

theorem Profiled.imp {P Q : User.Profile → Prop} (h : Profiled s u P)
    (himp : ∀ shown, P shown → Q shown) : Profiled s u Q where
  answered summarize few := (h.answered summarize few).imp fun shown => And.imp_right (himp shown)
  refused := h.refused

/-- What is shown of a user who is there. -/
theorem profile_of_live {user : User} (keyed : s.Keyed) (found : s.user? u = some user) :
    Profiled s u (· = ⟨user.id, user.name, user.city, s.booksHeld u, s.completedOf u,
      s.ratingOf u⟩) := by
  have hlength : (s.shelf u none).length = s.booksHeld u := by
    rw [Store.shelf, ← List.countP_eq_length_filter, Store.booksHeld, Table.count]
    exact List.countP_congr fun e _ => by simp [BookRow.isHeldBy]
  have hbooks := Store.booksOf_eq keyed u none
  rw [hlength] at hbooks
  have hanswer (summarize : String → String) :
      (Command.service summarize (.profile u)).answer s =
        (outcome (Answer.profile <$> profile u) s).1 := rfl
  constructor
  · intro summarize few
    rw [if_neg (Nat.not_lt.mpr few)] at hbooks
    refine ⟨_, ?_, rfl⟩
    rw [hanswer]
    simp [profile, getUser, outcome_bind, found, hbooks, hlength]
    rfl
  · intro summarize many
    rw [if_pos many] at hbooks
    rw [hanswer]
    simp [profile, getUser, outcome_bind, found, hbooks]

/-- Books and completed exchanges are accounted for. -/
structure Conserved (log : List Event) (s : Store) : Prop where
  /-- No call about an exchange changes how many live books a user owns, whether it succeeds or
  not. -/
  traded (summarize : String → String) (op : Operation) (trade : op.isTrade) (u : UserId) :
    ((Command.service summarize op).after s).booksHeld u = s.booksHeld u
  /-- Users own as many as they have listed, less those that they have deleted, until they close the
  account. -/
  counted (u : UserId) (opened : ¬ s.IsClosed u) :
    s.booksHeld u + successes Command.withdrawer? log u = successes Command.lister? log u
  /-- The profile of a user who is there shows that number, and that of the completed exchanges. -/
  shown (u : UserId) (live : (s.user? u).isSome) : Profiled s u fun shown =>
    shown.books + successes Command.withdrawer? log u = successes Command.lister? log u ∧
      shown.completedExchanges = s.completedOf u
  /-- A call that completes an exchange counts once for each of its two parties, and for nobody
  else. -/
  credited (summarize : String → String) (op : Operation) (x : ExchangeId)
    (done : (Event.mk s (.service summarize op)).completed? = some x) :
    ∃ row, s.exchanges.get? x = some row ∧ row.initiator ≠ row.recipient ∧
      ∀ u, ((Command.service summarize op).after s).completedOf u =
        s.completedOf u + if row.initiator = u ∨ row.recipient = u then 1 else 0
  /-- No other call counts for anybody. -/
  unmoved (summarize : String → String) (op : Operation)
    (other : (Event.mk s (.service summarize op)).completed? = none) (u : UserId) :
    ((Command.service summarize op).after s).completedOf u = s.completedOf u
  /-- Over all users, those with closed accounts too, every completed exchange counts twice. -/
  total : (s.users.entries.map fun e => s.completedOf e.1).sum =
    2 * s.exchanges.count (·.isCompleted)

/-- In every store that services have led to, exchanges move books about and neither make nor lose
any. -/
theorem Run.books_conserved (run : Run (fun _ => Command.IsService) .fresh log s) :
    Conserved log s := by
  have consistent := run.raced.consistent
  constructor
  · exact fun summarize op trade u => booksHeld_after_trade consistent trade u
  · exact fun u opened => run.books_counted opened
  · intro u live
    obtain ⟨user, found⟩ := Option.isSome_iff_exists.mp live
    refine (profile_of_live run.keyed found).imp fun shown hshown => ?_
    rw [hshown]
    exact ⟨run.books_counted (not_closed_of_user? found), rfl⟩
  · intro summarize op x done
    obtain ⟨row, found, parties, hcount⟩ :=
      completedOf_after_completion (v := ⟨s, .service summarize op⟩) trivial consistent done
    refine ⟨row, found, parties, fun u => (hcount u).trans ?_⟩
    by_cases h : row.initiator = u ∨ row.recipient = u
    · rw [if_pos h]
      simpa [ExchangeRow.names] using h
    · rw [if_neg h]
      simpa [ExchangeRow.names] using h
  · intro summarize op other u
    exact completedOf_after (v := ⟨s, .service summarize op⟩) trivial other u
  · exact Store.sum_completedOf run.backed run.parted

/-- Two users have swapped a book each. -/
theorem Run.books_conserved_completion :
    (follow .fresh completion).2.ownerOf 1 = some 2 ∧
      (follow .fresh completion).2.booksHeld 1 = 1 ∧
      (follow .fresh completion).2.completedOf 1 = 1 ∧
      Conserved (follow .fresh completion).1 (follow .fresh completion).2 := by
  have run := run_services .fresh completion (by
    simp [completion, acceptance, opening, Command.IsService])
  exact ⟨by decide +kernel, by decide +kernel, by decide +kernel, run.books_conserved⟩

/-! A user with more books than one query can read. -/

/-- A user who is there lists any valid offer that names no genre. -/
theorem Run.stocks (run : Run (fun _ => Command.IsService) .fresh log s)
    (summarize : String → String) (live : (s.user? u).isSome) {o : Book.Offer}
    (valid : o.validate = .ok ()) (plain : o.genres = []) :
    (∃ k, (Command.service summarize (.createBook u o)).answer s = .ok (.book k)) ∧
      (((Command.service summarize (.createBook u o)).after s).user? u).isSome := by
  obtain ⟨user, found⟩ := Option.isSome_iff_exists.mp live
  obtain ⟨row, hrow, -⟩ := Store.user?_eq_some.mp found
  have known : (s.users.get? u).isSome := by simp [hrow]
  obtain ⟨-, k, hanswer⟩ | ⟨g, hleast, -⟩ :=
    createBook_cases run.unlocked run.filed summarize valid known
  · obtain ⟨-, -, -, -, hafter⟩ := Store.insertBook_ok (insertBook_of_answer hanswer)
    refine ⟨⟨k, hanswer⟩, ?_⟩
    rw [hafter]
    exact live
  · simp [plain, IsLeast] at hleast

/-- The listing succeeds as often as it is asked for. -/
theorem Run.stocked (run : Run (fun _ => Command.IsService) .fresh log s)
    (summarize : String → String) (live : (s.user? u).isSome) {o : Book.Offer}
    (valid : o.validate = .ok ()) (plain : o.genres = []) (n : ℕ) :
    let later := follow s (List.replicate n (.service summarize (.createBook u o)))
    (later.2.user? u).isSome ∧ successes Command.lister? later.1 u = n ∧
      successes Command.withdrawer? later.1 u = 0 := by
  induction n generalizing log s with
  | zero => exact ⟨live, rfl, rfl⟩
  | succ n ih =>
    obtain ⟨⟨k, hanswer⟩, hlive⟩ := run.stocks summarize live valid plain
    let c := Command.service summarize (.createBook u o)
    obtain ⟨hstays, hlisted, hdeleted⟩ := ih (run.step c trivial) hlive
    have hcounts (who : Command → Option UserId) :
        successes who (follow s (List.replicate (n + 1) c)).1 u =
          successes who (follow (c.after s) (List.replicate n c)).1 u + (who c == some u).toNat := by
      rw [← Event.counts_of_ok (v := ⟨s, c⟩) hanswer]
      exact successes_cons who
    refine ⟨hstays, ?_, ?_⟩
    · rw [hcounts, hlisted]
      simp [c, Command.lister?]
    · rw [hcounts, hdeleted]
      rfl

/-- Ana lists the same book again and again. -/
def stocking (n : ℕ) : List Command :=
  .service id (.createUser ⟨"Ana", "ana@example.org", "Porto", ""⟩) ::
    List.replicate n (.service id (.createBook 1 ⟨"Dune", "Herbert", "", none, []⟩))

theorem run_stocking (n : ℕ) :
    Run (fun _ => Command.IsService) .fresh (follow .fresh (stocking n)).1
      (follow .fresh (stocking n)).2 :=
  run_services .fresh _ (by simp [stocking, Command.IsService])

theorem stocking_listed (n : ℕ) :
    ((follow .fresh (stocking n)).2.user? 1).isSome ∧
      successes Command.lister? (follow .fresh (stocking n)).1 1 = n ∧
      successes Command.withdrawer? (follow .fresh (stocking n)).1 1 = 0 := by
  let c := Command.service id (.createUser ⟨"Ana", "ana@example.org", "Porto", ""⟩)
  have hopened : ((c.after .fresh).user? 1).isSome := by decide +kernel
  have run : Run (fun _ => Command.IsService) .fresh [⟨.fresh, c⟩] (c.after .fresh) :=
    Run.start.step c trivial
  obtain ⟨hlive, hlisted, hdeleted⟩ := run.stocked id hopened
    (o := ⟨"Dune", "Herbert", "", none, []⟩) (by decide +kernel) rfl n
  refine ⟨hlive, ?_, ?_⟩
  · exact (successes_cons _).trans (by rw [hlisted]; rfl)
  · exact (successes_cons _).trans (by rw [hdeleted]; rfl)

/-- With one book too many there is no profile any more. -/
theorem profile_of_stocking {n : ℕ} (many : Store.variableLimit < n) :
    (Command.service id (.profile 1)).answer (follow .fresh (stocking n)).2 =
      .error (.storage .tooManyVariables) := by
  have run := run_stocking n
  obtain ⟨hlive, hlisted, hdeleted⟩ := stocking_listed n
  obtain ⟨user, found⟩ := Option.isSome_iff_exists.mp hlive
  have hheld := run.books_counted (not_closed_of_user? found)
  rw [hlisted, hdeleted, Nat.add_zero] at hheld
  exact (profile_of_live run.keyed found).refused id (many.trans_eq hheld.symm)

/-- A user who has listed 32767 books and deleted none has no profile in which they could be counted. -/
theorem books_uncounted :
    Run (fun _ => Command.IsService) .fresh (follow .fresh (stocking 32767)).1
        (follow .fresh (stocking 32767)).2 ∧
      ((follow .fresh (stocking 32767)).2.user? 1).isSome ∧
      successes Command.lister? (follow .fresh (stocking 32767)).1 1 = 32767 ∧
      successes Command.withdrawer? (follow .fresh (stocking 32767)).1 1 = 0 ∧
      (Command.service id (.profile 1)).answer (follow .fresh (stocking 32767)).2 =
        .error (.storage .tooManyVariables) := by
  obtain ⟨hlive, hlisted, hdeleted⟩ := stocking_listed 32767
  exact ⟨run_stocking 32767, hlive, hlisted, hdeleted, profile_of_stocking (by decide)⟩

end Market

end BookExchange
