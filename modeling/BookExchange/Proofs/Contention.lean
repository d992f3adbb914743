import BookExchange.Proofs.Reservation

/-! Proposals that compete for books. Each of them would succeed by itself. Made one after the
other, a proposal succeeds exactly when no winner before it has one of its books. -/
namespace BookExchange
open Call

namespace Exchange.Proposal

/-- The proposals name a common book. -/
def Shares (p q : Proposal) : Prop := ∃ b, p.Names b ∧ q.Names b

end Exchange.Proposal

namespace Store
variable {s t u : Store} {p : Exchange.Proposal} {taken more : BookId → Prop}

/-- The proposal succeeds. -/
def Admits (s : Store) (p : Exchange.Proposal) : Prop :=
  ∃ e t, outcome (insertExchange p) s = (.ok e, t)

/-- The books were free and are reserved in the second store, where no other book has changed. -/
structure Reserves (s t : Store) (taken : BookId → Prop) : Prop where
  users : t.users = s.users
  locked : t.locked = s.locked
  others : ∀ b, ¬ taken b → t.books.get? b = s.books.get? b
  reserved : ∀ b, taken b → ∃ row now, s.books.get? b = some row ∧ row.isFree ∧
    t.books.get? b = some (row.reserve now)

theorem Reserves.refl (s : Store) : s.Reserves s fun _ => False := by
  constructor <;> simp

theorem Reserves.trans (h : s.Reserves t taken) (h' : t.Reserves u more) :
    s.Reserves u fun b => taken b ∨ more b := by
  constructor
  · exact h'.users.trans h.users
  · exact h'.locked.trans h.locked
  · intro b hb
    have hlater := h'.others b fun hmore => hb (.inr hmore)
    exact hlater.trans (h.others b fun htaken => hb (.inl htaken))
  · intro b hb
    by_cases hmore : more b
    · obtain ⟨row, now, found, free, hrow⟩ := h'.reserved b hmore
      -- What was free for the second reservation was not touched by the first.
      have hfree : ¬ taken b := by
        intro htaken
        obtain ⟨row', now', -, -, hrow'⟩ := h.reserved b htaken
        rw [found] at hrow'
        cases hrow'
        simp [BookRow.isFree, BookRow.reserve] at free
      exact ⟨row, now, h.others b hfree ▸ found, free, hrow⟩
    · obtain ⟨row, now, found, free, hrow⟩ := h.reserved b (hb.resolve_right hmore)
      exact ⟨row, now, found, free, (h'.others b hmore).trans hrow⟩

theorem Reserves.congr (h : s.Reserves t taken) (hiff : ∀ b, more b ↔ taken b) :
    s.Reserves t more := by
  have heq : more = taken := funext fun b => propext (hiff b)
  exact heq ▸ h

theorem reserves_of_writes (hw : (Market.Port.insertExchange p).Writes s t) :
    s.Reserves t p.Names := by
  cases hw with
  | @insertExchange _ mine theirs mineFound mineOwned mineFree theirsFound theirsOwned theirsFree
      books =>
    constructor
    · rfl
    · rfl
    · intro b hb
      obtain ⟨hmine, htheirs⟩ := Exchange.Proposal.ne_of_not_names hb
      simp [hmine, htheirs]
    · intro b hb
      obtain rfl | rfl := hb
      · exact ⟨mine, s.clock, mineFound, mineFree, by simp [books, mineFound]⟩
      · exact ⟨theirs, s.clock + 1, theirsFound, theirsFree, by
          simp [books.symm, theirsFound]; rfl⟩

/-- A book that is reserved is refused to its owner, too. -/
theorem reserveOwned_of_reserved {b : BookId} {owner : UserId} {notOwner : Failure} {row : BookRow}
    (unlocked : s.locked = false) (found : s.books.get? b = some row) (owned : row.owner = owner)
    (live : row.isLive) (reserved : row.status = .known .reserved) :
    outcome (reserveOwned b owner notOwner) s = (.error (.alreadyReserved b), s) := by
  have hupdate : outcome (updateBook b (fun r => r.owner == owner && r.isFree) .reserve) s =
      (.ok false, s) := by
    refine update_eq_false.mpr ⟨unlocked, rfl, ?_⟩
    intro row' found'
    cases found.symm.trans found'
    simp [BookRow.isFree, reserved]
  have hlive := liveBook?_eq_some.mpr ⟨found, live⟩
  simp [reserveOwned, outcome_bind, hupdate, hlive, owned]

/-- What the port makes sure of is all that it asks for. -/
theorem insertExchange_of_writes (unlocked : s.locked = false)
    (hw : (Market.Port.insertExchange p).Writes s t) :
    outcome (insertExchange p) s = (.ok ⟨s.exchanges.nextId, p.initiator, p.recipient,
      p.initiatorBook, p.recipientBook, .pending, none, s.clock + 2, s.clock + 2⟩, t) := by
  cases hw with
  | @insertExchange _ mine theirs mineFound mineOwned mineFree theirsFound theirsOwned theirsFree
      books parties known =>
    have hmine : outcome (reserveOwned p.initiatorBook p.initiator .initiatorNotOwner) s =
        (.ok (), s.setBook p.initiatorBook .reserve) :=
      reserveOwned_eq_ok.mpr ⟨unlocked, mine, mineFound, mineOwned, mineFree, rfl⟩
    have htheirs : outcome (reserveOwned p.recipientBook p.recipient .recipientNotOwner)
        (s.setBook p.initiatorBook .reserve) =
          (.ok (), (s.setBook p.initiatorBook .reserve).setBook p.recipientBook .reserve) :=
      reserveOwned_eq_ok.mpr
        ⟨unlocked, theirs, by simp [books.symm, theirsFound], theirsOwned, theirsFree, rfl⟩
    have hlocked : ((s.setBook p.initiatorBook .reserve).setBook p.recipientBook .reserve).locked =
        false := unlocked
    obtain ⟨i, hi⟩ := Option.isSome_iff_exists.mp known.1
    obtain ⟨r, hr⟩ := Option.isSome_iff_exists.mp known.2
    simp only [insertExchange, outcome_transaction, outcome_bind, hmine, htheirs, outcome_write,
      hlocked, parties, setBook_users, hi, hr, setBook_get?, mineFound, theirsFound, books,
      books.symm, Option.map_some, Option.isNone_some, Bool.or_self, Bool.false_eq_true, ↓reduceIte]
    rfl

/-- A success has met a store that was not locked. -/
theorem Admits.writes (h : s.Admits p) :
    s.locked = false ∧ ∃ t, (Market.Port.insertExchange p).Writes s t := by
  obtain ⟨e, t, h⟩ := h
  refine ⟨?_, t, Market.Port.writes_insertExchange h⟩
  rw [insertExchange, transaction_eq_ok, bind_eq_ok] at h
  obtain ⟨_, u, hmine, -⟩ := h
  exact (reserveOwned_eq_ok.mp hmine).1

end Store

namespace Market

/-- Proposals made one after the other: those that succeeded so far, and the store by now. -/
structure Contest where
  winners : List Exchange.Proposal
  store : Store

namespace Contest

def propose (c : Contest) (p : Exchange.Proposal) : Contest :=
  match outcome (Store.insertExchange p) c.store with
  | (.ok _, t) => ⟨c.winners ++ [p], t⟩
  | (.error _, t) => ⟨c.winners, t⟩

/-- A winner has the book. -/
def Taken (c : Contest) (b : BookId) : Prop := ∃ q ∈ c.winners, q.Names b

end Contest

/-- The proposals are made in the order of the list. -/
def contest (s : Store) (ps : List Exchange.Proposal) : Contest := ps.foldl .propose ⟨[], s⟩

namespace Contest
variable {c : Contest} {s : Store} {p : Exchange.Proposal} {ps : List Exchange.Proposal}

theorem contest_concat : contest s (ps ++ [p]) = (contest s ps).propose p := by
  simp [contest]

/-- What becomes of a proposal that the contest has left alone so far. -/
inductive Verdict (c : Contest) (p : Exchange.Proposal) : Prop where
  | wins (free : ∀ b, p.Names b → ¬ c.Taken b) (admitted : c.store.Admits p) {t : Store}
      (proposed : c.propose p = ⟨c.winners ++ [p], t⟩)
      (written : (Port.insertExchange p).Writes c.store t)
  | loses {b : BookId} (named : p.Names b) (taken : c.Taken b)
      (first : b ≠ p.initiatorBook → ¬ c.Taken p.initiatorBook) (proposed : c.propose p = c)
      (refused : outcome (Store.insertExchange p) c.store = (.error (.alreadyReserved b), c.store))

theorem verdict_of_refused {b : BookId} (named : p.Names b) (taken : c.Taken b)
    (first : b ≠ p.initiatorBook → ¬ c.Taken p.initiatorBook)
    (refused : outcome (Store.insertExchange p) c.store = (.error (.alreadyReserved b), c.store)) :
    c.Verdict p :=
  .loses named taken first (by simp [propose, refused]) refused

theorem verdict (h : s.Reserves c.store c.Taken) (alone : s.Admits p) : c.Verdict p := by
  obtain ⟨unlocked, t, hw⟩ := alone.writes
  have hlocked : c.store.locked = false := h.locked.trans unlocked
  cases hw with
  | @insertExchange _ mine theirs mineFound mineOwned mineFree theirsFound theirsOwned theirsFree
      books parties known =>
    -- A winner's book still is its owner's and live, but reserved.
    have hrefused : ∀ b owner notOwner row (u : Store), u.locked = false → c.Taken b →
        s.books.get? b = some row → row.owner = owner → u.books.get? b = c.store.books.get? b →
        outcome (Store.reserveOwned b owner notOwner) u = (.error (.alreadyReserved b), u) := by
      intro b owner notOwner row u hu htaken found owned hsame
      obtain ⟨row', now, found', free, hnow⟩ := h.reserved b htaken
      cases found.symm.trans found'
      simp only [BookRow.isFree, Bool.and_eq_true] at free
      exact Store.reserveOwned_of_reserved hu (hsame.trans hnow) owned free.2 rfl
    by_cases hmine : c.Taken p.initiatorBook
    · have hfirst := hrefused _ p.initiator .initiatorNotOwner mine c.store hlocked hmine mineFound
        mineOwned rfl
      refine verdict_of_refused (.inl rfl) hmine (fun hne => absurd rfl hne) ?_
      simp [Store.insertExchange, outcome_transaction, outcome_bind, hfirst]
    · have mineFound' := (h.others _ hmine).trans mineFound
      by_cases htheirs : c.Taken p.recipientBook
      · have hfirst : outcome (Store.reserveOwned p.initiatorBook p.initiator .initiatorNotOwner)
            c.store = (.ok (), c.store.setBook p.initiatorBook .reserve) :=
          Store.reserveOwned_eq_ok.mpr ⟨hlocked, mine, mineFound', mineOwned, mineFree, rfl⟩
        have hsecond := hrefused _ p.recipient .recipientNotOwner theirs
          (c.store.setBook p.initiatorBook .reserve) hlocked htheirs theirsFound theirsOwned
          (by simp [books.symm])
        refine verdict_of_refused (.inr rfl) htheirs (fun _ => hmine) ?_
        simp [Store.insertExchange, outcome_transaction, outcome_bind, hfirst, hsecond]
      · have theirsFound' := (h.others _ htheirs).trans theirsFound
        have written := Port.Writes.insertExchange mineFound' mineOwned mineFree theirsFound'
          theirsOwned theirsFree books parties (h.users ▸ known)
        have he := Store.insertExchange_of_writes hlocked written
        refine .wins ?_ ⟨_, _, he⟩ (by simp [propose, he]) written
        intro b hb
        obtain rfl | rfl := hb
        · exact hmine
        · exact htheirs

theorem Verdict.reserves (h : s.Reserves c.store c.Taken) (v : c.Verdict p) :
    s.Reserves (c.propose p).store (c.propose p).Taken := by
  cases v with
  | loses named taken first proposed => rwa [proposed]
  | wins free admitted proposed written =>
    rw [proposed]
    refine (h.trans (Store.reserves_of_writes written)).congr ?_
    intro b
    simp [Taken, or_and_right, exists_or]

/-- What one proposal keeps, the contest keeps. -/
theorem reserves_contest (alone : ∀ p ∈ ps, s.Admits p) :
    s.Reserves (contest s ps).store (contest s ps).Taken := by
  induction ps using List.reverseRecOn with
  | nil => exact (Store.Reserves.refl s).congr fun b => by simp [contest, Taken]
  | append_singleton ps p ih =>
    have h := ih fun q hq => alone q (List.mem_append_left _ hq)
    rw [contest_concat]
    exact (verdict h (alone p (by simp))).reserves h

theorem Verdict.admits_iff (v : c.Verdict p) :
    c.store.Admits p ↔ ∀ q ∈ c.winners, ¬ p.Shares q := by
  cases v with
  | wins free admitted =>
    refine iff_of_true admitted ?_
    intro q hq hshares
    obtain ⟨b, hp, hqb⟩ := hshares
    exact free b hp ⟨q, hq, hqb⟩
  | @loses b named taken first proposed refused =>
    obtain ⟨q, hq, hqb⟩ := taken
    refine iff_of_false ?_ fun hnone => hnone q hq ⟨b, named, hqb⟩
    intro hadmits
    obtain ⟨e, t, he⟩ := hadmits
    simp [refused] at he

/-- Where all proposals name one book, the first keeps it from the others. -/
theorem winners_of_common {b : BookId} (alone : ∀ q ∈ p :: ps, s.Admits q)
    (common : ∀ q ∈ p :: ps, q.Names b) : (contest s (p :: ps)).winners = [p] := by
  induction ps using List.reverseRecOn with
  | nil =>
    have hstart : s.Reserves (contest s []).store (contest s []).Taken := reserves_contest (by simp)
    cases verdict hstart (alone p (by simp)) with
    | wins free admitted proposed => exact congrArg winners proposed
    | loses named taken => simp [contest, Taken] at taken
  | append_singleton ps q ih =>
    rw [← List.cons_append] at alone common ⊢
    have hbefore := fun r hr => alone r (List.mem_append_left _ hr)
    have hwinners := ih hbefore fun r hr => common r (List.mem_append_left _ hr)
    rw [contest_concat]
    cases verdict (reserves_contest hbefore) (alone q (by simp)) with
    | wins free =>
      have htaken : (contest s (p :: ps)).Taken b := ⟨p, by simp [hwinners], common p (by simp)⟩
      exact absurd htaken (free b (common q (by simp)))
    | loses named taken first proposed => rw [proposed, hwinners]

/-- First come, first served. -/
structure Fair (s : Store) (ps : List Exchange.Proposal) : Prop where
  /-- A proposal succeeds exactly when it shares no book with a winner before it. -/
  admits_iff : ∀ earlier p later, ps = earlier ++ p :: later →
    ((contest s earlier).store.Admits p ↔ ∀ q ∈ (contest s earlier).winners, ¬ p.Shares q)
  /-- A loser is told which of its books is reserved, the initiator's if both are. -/
  refused : ∀ earlier p later f t, ps = earlier ++ p :: later →
    outcome (Store.insertExchange p) (contest s earlier).store = (.error f, t) →
      t = (contest s earlier).store ∧ ∃ b, f = .alreadyReserved b ∧ p.Names b ∧
        (contest s earlier).Taken b ∧
        (b ≠ p.initiatorBook → ¬ (contest s earlier).Taken p.initiatorBook)
  /-- The books that are reserved now and were not are those of the winners. -/
  reserved_iff : ∀ b, (contest s ps).store.IsReserved b ∧ ¬ s.IsReserved b ↔ (contest s ps).Taken b
  /-- A loser's book that no winner has is as available as it was. -/
  available : ∀ p ∈ ps, ∀ b, p.Names b → ¬ (contest s ps).Taken b →
    ∃ row, s.books.get? b = some row ∧ (contest s ps).store.books.get? b = some row ∧ row.isFree
  /-- Of proposals for one book one succeeds. -/
  sole_winner : ∀ b, ps ≠ [] → (∀ p ∈ ps, p.Names b) → ∃ p, (contest s ps).winners = [p]

end Contest

open Contest

/-- Proposals that a store would each admit alone are served first come, first served, in whatever
order they come. -/
theorem contest_fair {s : Store} {ps : List Exchange.Proposal} (alone : ∀ p ∈ ps, s.Admits p) :
    Fair s ps := by
  have hverdict : ∀ earlier p later, ps = earlier ++ p :: later →
      (contest s earlier).Verdict p := by
    intro earlier p later hps
    subst hps
    exact verdict (reserves_contest fun q hq => alone q (List.mem_append_left _ hq))
      (alone p (by simp))
  have hend := reserves_contest alone
  constructor
  · exact fun earlier p later hps => (hverdict earlier p later hps).admits_iff
  · intro earlier p later f t hps hfailed
    cases hverdict earlier p later hps with
    | wins free admitted =>
      obtain ⟨e, u, he⟩ := admitted
      simp [he] at hfailed
    | @loses b named taken first proposed refused =>
      cases refused.symm.trans hfailed
      exact ⟨rfl, b, rfl, named, taken, first⟩
  · intro b
    constructor
    · intro hb
      by_contra hfree
      exact hb.2 (hb.1.congr (hend.others b hfree).symm)
    · intro hb
      obtain ⟨row, now, found, free, hnow⟩ := hend.reserved b hb
      exact ⟨⟨_, hnow, rfl⟩, Store.not_isReserved_of_isFree found free⟩
  · intro p hp b hb hfree
    obtain ⟨-, t, hw⟩ := (alone p hp).writes
    obtain ⟨row, now, found, free, -⟩ := (Store.reserves_of_writes hw).reserved b hb
    exact ⟨row, found, (hend.others b hfree).trans found, free⟩
  · intro b hne common
    cases ps with
    | nil => exact absurd rfl hne
    | cons p ps => exact ⟨p, winners_of_common alone common⟩

/-- Three users with a book each. -/
def threeShelves : Store :=
  { Store.fresh with
    users := ⟨[some ⟨"Ana", "a@x", "Porto", "porto", "", 0, none⟩,
      some ⟨"Rui", "r@x", "Porto", "porto", "", 1, none⟩,
      some ⟨"Eva", "e@x", "Faro", "faro", "", 2, none⟩]⟩
    books := ⟨[some ⟨"A", "B", "a", "b", "", "", .known .available, 1, 3, 3, none⟩,
      some ⟨"C", "D", "c", "d", "", "", .known .available, 2, 4, 4, none⟩,
      some ⟨"E", "F", "e", "f", "", "", .known .available, 3, 5, 5, none⟩]⟩
    clock := 6 }

/-- Two users want the same book for theirs. -/
theorem contest_fair_threeShelves :
    Fair threeShelves [⟨1, 2, 1, 2⟩, ⟨3, 2, 3, 2⟩] ∧
      (contest threeShelves [⟨1, 2, 1, 2⟩, ⟨3, 2, 3, 2⟩]).winners = [⟨1, 2, 1, 2⟩] := by
  have alone : ∀ p ∈ ([⟨1, 2, 1, 2⟩, ⟨3, 2, 3, 2⟩] : List Exchange.Proposal),
      threeShelves.Admits p := by
    intro p hp
    simp only [List.mem_cons, List.not_mem_nil, or_false] at hp
    obtain rfl | rfl := hp
    · exact ⟨_, _, rfl⟩
    · exact ⟨_, _, rfl⟩
  exact ⟨contest_fair alone, rfl⟩

end Market
end BookExchange
