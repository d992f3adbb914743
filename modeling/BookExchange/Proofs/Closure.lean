import BookExchange.Proofs.Ownership

/-! A user who closes the account leaves the market: the books are withdrawn, and no active exchange
names the user. From then on the only way back is to list a book, and there nobody looks at whether
the account is closed. -/
namespace BookExchange
open Call

/-- The user gives one of the books and gets the other. -/
def Exchange.Proposal.HasParty (p : Proposal) (u : UserId) : Prop :=
  p.initiator = u ∨ p.recipient = u

/-- What is live after the withdrawal is another user's and was not touched. -/
theorem BookRow.of_withdraw_isLive {row : BookRow} {u : UserId} {now : Time}
    (h : (row.withdraw u now).isLive) : row.withdraw u now = row ∧ row.owner ≠ u := by
  unfold withdraw at h ⊢
  split at h
  · simp [isLive] at h
  · rename_i hrow
    rw [if_neg hrow]
    exact ⟨rfl, fun howner => hrow ⟨howner, h⟩⟩

namespace Store

/-- The user's row is kept, but it is deleted. -/
def IsClosed (s : Store) (u : UserId) : Prop :=
  ∃ row, s.users.get? u = some row ∧ row.isLive = false

instance (s : Store) (u : UserId) : Decidable (s.IsClosed u) :=
  decidable_of_iff ((s.users.get? u).any fun row => !row.isLive) (by
    simp [IsClosed, Option.any_eq_true])

/-- The user owns a live book. -/
def Lists (s : Store) (u : UserId) : Prop :=
  ∃ b row, s.books.get? b = some row ∧ row.isLive ∧ row.owner = u

/-- An active exchange names the user. -/
def InExchange (s : Store) (u : UserId) : Prop := ∃ x p, s.Active x p ∧ p.HasParty u

def InMarket (s : Store) (u : UserId) : Prop := s.Lists u ∨ s.InExchange u

variable {s t : Store} {u : UserId}

theorem Lists.of_setBook {id : BookId} (f : Time → BookRow → BookRow)
    (hf : ∀ now row, (f now row).isLive → row.isLive ∧ (f now row).owner = row.owner)
    (h : (s.setBook id f).Lists u) : s.Lists u := by
  obtain ⟨b, row, found, live, rfl⟩ := h
  by_cases hb : b = id
  · simp only [setBook_get?, hb, ↓reduceIte, Option.map_eq_some_iff] at found
    obtain ⟨row', found', rfl⟩ := found
    obtain ⟨live', howner⟩ := hf _ _ live
    exact ⟨id, row', found', live', howner.symm⟩
  · rw [setBook_get?, if_neg hb] at found
    exact ⟨b, row, found, live, rfl⟩

theorem Lists.of_transfer {id : BookId} {owner : UserId}
    (h : (s.setBook id (.transfer owner)).Lists u) : s.Lists u ∨ owner = u := by
  obtain ⟨b, row, found, live, rfl⟩ := h
  by_cases hb : b = id
  · simp only [setBook_get?, hb, ↓reduceIte, Option.map_eq_some_iff] at found
    obtain ⟨row', -, rfl⟩ := found
    exact .inr rfl
  · rw [setBook_get?, if_neg hb] at found
    exact .inl ⟨b, row, found, live, rfl⟩

theorem Lists.of_release {id : BookId} (h : (s.setBook id .release).Lists u) : s.Lists u :=
  h.of_setBook .release fun _ _ live => ⟨live, rfl⟩

theorem Lists.of_reserve {id : BookId} (h : (s.setBook id .reserve).Lists u) : s.Lists u :=
  h.of_setBook .reserve fun _ _ live => ⟨live, rfl⟩

theorem InExchange.busy (h : s.InExchange u) : s.hasActiveExchange u = true := by
  obtain ⟨x, p, hp, hu | hu⟩ := h
  · exact hp.busy (.inl ⟨rfl, hu⟩)
  · exact hp.busy (.inr ⟨rfl, hu⟩)

end Store

namespace Market
variable {s t : Store} {p : Port} {u : UserId}

/-- An account is closed by its removal alone. -/
theorem Port.Writes.isClosed (h : p.Writes s t) (hp : p ≠ .removeUser u) (closed : t.IsClosed u) :
    s.IsClosed u := by
  obtain ⟨row, found, hlive⟩ := closed
  cases h with
  | @insertUser r =>
    by_cases hu : u = s.users.nextId
    · simp only [Store.tick_users, Table.get?_insert, hu, ↓reduceIte, Option.some.injEq] at found
      simp [← found, User.Registration.row, UserRow.isLive] at hlive
    · exact ⟨row, by simpa [Table.get?_insert, hu] using found, hlive⟩
  | @saveUser v row' =>
    by_cases hu : u = v.id
    · simp only [Store.tick_users, Table.get?_modify, hu, ↓reduceIte, Option.map_eq_some_iff] at found
      obtain ⟨row', found', rfl⟩ := found
      exact ⟨row', hu ▸ found', hlive⟩
    · exact ⟨row, by simpa [Table.get?_modify, hu] using found, hlive⟩
  | @removeUser id =>
    have hu : u ≠ id := fun hu => hp (by rw [hu])
    exact ⟨row, by simpa [Table.get?_modify, hu] using found, hlive⟩
  | _ => exact ⟨row, found, hlive⟩

/-- What the removal of a user leaves listed is somebody else's. -/
theorem lists_removeUser {id : UserId} (h : (Port.removeUser id).Writes s t) (ht : t.Lists u) :
    s.Lists u ∧ u ≠ id := by
  cases h with
  | removeUser found live idle =>
    obtain ⟨b, row, found, live, rfl⟩ := ht
    simp only [Table.get?_map, Option.map_eq_some_iff] at found
    obtain ⟨row', found', rfl⟩ := found
    obtain ⟨hsame, hother⟩ := BookRow.of_withdraw_isLive live
    rw [hsame] at live ⊢
    exact ⟨⟨b, row', found', live, rfl⟩, hother⟩

/-- The new owners of the books are the parties of an exchange that was active. -/
theorem lists_completeExchange {e : Exchange} (fits : (Port.completeExchange e).Fits s)
    (h : (Port.completeExchange e).Writes s t) (ht : t.Lists u) : s.InMarket u := by
  have hactive := active_of_completeExchange fits h
  cases h with
  | completeExchange found accepted =>
    obtain htheirs | hu := ht.of_release.of_release.of_transfer
    · obtain hmine | hu := htheirs.of_transfer
      · exact .inl hmine
      · exact .inr ⟨e.id, e.terms, hactive, .inr hu⟩
    · exact .inr ⟨e.id, e.terms, hactive, .inl hu⟩

/-- Whoever owns a live book did so before, was in an active exchange or has listed the book. -/
theorem Port.Writes.lists (h : p.Writes s t) (fits : p.Fits s) (ht : t.Lists u) :
    s.InMarket u ∨ ∃ e, p = .insertBook e ∧ e.owner = u := by
  cases p with
  | removeUser id => exact .inl (.inl (lists_removeUser h ht).1)
  | insertBook e =>
    cases h
    obtain ⟨b, row, found, live, rfl⟩ := ht
    by_cases hb : b = s.books.nextId
    · simp only [Store.tick_books, Table.get?_insert, hb, ↓reduceIte, Option.some.injEq] at found
      subst found
      exact .inr ⟨e, rfl, rfl⟩
    · exact .inl (.inl ⟨b, row, by simpa [Table.get?_insert, hb] using found, live, rfl⟩)
  | describe id description =>
    cases h
    exact .inl (.inl (ht.of_setBook (.describe description) fun _ _ live => ⟨live, rfl⟩))
  | removeBook id =>
    cases h
    refine .inl (.inl (ht.of_setBook .remove ?_))
    intro now row live
    simp [BookRow.remove, BookRow.isLive] at live
  | reserve id => exact fits.elim
  | release id => exact fits.elim
  | transfer id owner => exact fits.elim
  | insertExchange q =>
    cases h
    have hreserved :
        ((s.setBook q.initiatorBook .reserve).setBook q.recipientBook .reserve).Lists u := ht
    exact .inl (.inl hreserved.of_reserve.of_reserve)
  | completeExchange e => exact .inl (lists_completeExchange fits h ht)
  | cancelExchange e =>
    cases h
    exact .inl (.inl ht.of_release.of_release)
  | _ =>
    cases h
    exact .inl (.inl ht)

/-- Whoever is in an active exchange was so before, or owned a live book to open it with. -/
theorem Port.Writes.inExchange (h : p.Writes s t) (ht : t.InExchange u) : s.InMarket u := by
  obtain ⟨x, q, hq, hu⟩ := ht
  cases h with
  | @insertExchange r mine theirs mineFound mineOwned mineFree theirsFound theirsOwned theirsFree =>
    simp only [BookRow.isFree, Bool.and_eq_true] at mineFree theirsFree
    by_cases hx : x = s.exchanges.nextId
    · obtain ⟨row, found, -, rfl⟩ := hq
      simp only [Store.tick_exchanges, Table.get?_insert, hx, ↓reduceIte, Option.some.injEq] at found
      subst found
      obtain hu | hu := hu
      · exact .inl ⟨r.initiatorBook, mine, mineFound, mineFree.2, mineOwned.trans hu⟩
      · exact .inl ⟨r.recipientBook, theirs, theirsFound, theirsFree.2, theirsOwned.trans hu⟩
    · have hq : s.Active x q := by simpa [Store.Active, Table.get?_insert, hx] using hq
      exact .inr ⟨x, q, hq, hu⟩
  | acceptExchange found pending =>
    rw [Store.active_accept found pending] at hq
    exact .inr ⟨x, q, hq, hu⟩
  | completeExchange =>
    obtain ⟨hq, -⟩ := (Store.active_close fun _ _ => rfl).mp hq
    exact .inr ⟨x, q, hq, hu⟩
  | cancelExchange =>
    obtain ⟨hq, -⟩ := (Store.active_close fun _ _ => rfl).mp hq
    exact .inr ⟨x, q, hq, hu⟩
  | _ => exact .inr ⟨x, q, hq, hu⟩

/-- Nobody enters the market but by listing a book. -/
theorem Port.Writes.inMarket (h : p.Writes s t) (fits : p.Fits s) (ht : t.InMarket u) :
    s.InMarket u ∨ ∃ e, p = .insertBook e ∧ e.owner = u := by
  obtain ht | ht := ht
  · exact h.lists fits ht
  · exact .inl (h.inExchange ht)

/-- Whoever closes the account leaves the market. -/
theorem not_inMarket_of_removeUser (h : (Port.removeUser u).Writes s t) : ¬ t.InMarket u := by
  intro ht
  obtain ht | ht := ht
  · exact (lists_removeUser h ht).2 rfl
  · cases h with
    | removeUser found live idle =>
      have hexchange : s.InExchange u := ht
      simp [hexchange.busy] at idle

namespace Event
variable {v : Event}

theorem enters (fits : ∀ p, v.command.Calls v.store p → p.Fits v.store) (h : v.after.InMarket u) :
    v.store.InMarket u ∨ ∃ b, v.created? = some (b, u) := by
  cases v.command.cases v.store with
  | fails failed unchanged => exact .inl (unchanged ▸ h)
  | looks query unchanged => exact .inl (unchanged ▸ h)
  | writes calls answered =>
    obtain h | ⟨e, rfl, rfl⟩ := (Port.writes_of_ok answered).inMarket (fits _ calls) h
    · exact .inl h
    · exact .inr ⟨_, created?_of_insertBook calls answered⟩
  | describes calls failed written unreadable =>
    obtain h | ⟨e, he, -⟩ := written.inMarket (fits _ calls) h
    · exact .inl h
    · cases he

theorem closes (h : v.after.IsClosed u) : v.store.IsClosed u ∨ ¬ v.after.InMarket u := by
  obtain unchanged | ⟨p, -, hw⟩ := v.command.after_cases v.store
  · exact .inl (unchanged ▸ h)
  · by_cases hp : p = .removeUser u
    · subst hp
      exact .inr (not_inMarket_of_removeUser hw)
    · exact .inl (hw.isClosed hp h)

/-- The store takes a book for a closed account. -/
theorem relists {b : BookId} (fits : ∀ p, v.command.Calls v.store p → p.Fits v.store)
    (created : v.created? = some (b, u)) (closed : v.store.IsClosed u) :
    v.after.IsClosed u ∧ v.after.InMarket u := by
  cases v.effect fits with
  | @creates e hcreated completed written =>
    rw [hcreated] at created
    cases created
    generalize v.after = t at written
    cases written
    have found := Table.get?_insert v.store.books (e.row v.store.clock) v.store.books.nextId
    rw [if_pos rfl] at found
    exact ⟨closed, .inl ⟨_, _, found, rfl, rfl⟩⟩
  | completes hcreated => simp [hcreated] at created
  | neither hcreated => simp [hcreated] at created

end Event

section Run
variable {log : List Event}

/-- A closed account is out of the market at all times, unless a book is listed for it after it was
closed. No service and no race brings it back otherwise. -/
theorem Run.closed_accounts_out_iff (run : Run Command.Raced .fresh log s) (u : UserId) :
    (∀ t ∈ seen log s, t.IsClosed u → ¬ t.InMarket u) ↔
      ∀ v ∈ log, ∀ b, v.created? = some (b, u) → ¬ v.store.IsClosed u := by
  constructor
  · intro hout v hv b created closed
    obtain ⟨log', run', ok⟩ := run.of_mem_log hv
    obtain ⟨closed', hin⟩ := Event.relists (run'.event_fits ok) created closed
    exact hout _ (run.after_mem_seen hv) closed' hin
  · intro hlisted
    induction run with
    | start => simp [seen, Store.IsClosed, Store.fresh]
    | @step log s c run ok ih =>
      have hout := ih fun v hv => hlisted v (List.mem_append_left _ hv)
      intro t ht
      rw [seen_concat, List.mem_append, List.mem_singleton] at ht
      obtain ht | rfl := ht
      · exact hout t ht
      · intro closed hin
        obtain closed | hgone := Event.closes (v := ⟨s, c⟩) closed
        · obtain hin | ⟨b, created⟩ := Event.enters (v := ⟨s, c⟩) (Run.event_fits run ok) hin
          · exact hout s mem_seen closed hin
          · exact hlisted _ (by simp) b created closed
        · exact hgone hin

/-! The first user lists a book and closes the account. -/

def closing : List Command := opening.take 4 ++ [.service id (.deleteUser 1 1)]

/-- The first user lists another book, and somebody else asks for it. -/
def relisting : List Command :=
  closing ++ [.service id (.createBook 1 ⟨"Ubik", "Dick", "", none, []⟩),
    .service id (.createExchange 2 ⟨1, 2, 3⟩)]

theorem Run.closed_accounts_out_iff_closing :
    (follow .fresh closing).2.IsClosed 1 ∧ ¬ (follow .fresh closing).2.InMarket 1 := by
  have hraced : ∀ stores, ∀ c ∈ closing, c.Raced stores := by
    simp [closing, opening, Command.Raced]
  have run : Run Command.Raced .fresh (follow .fresh closing).1 (follow .fresh closing).2 :=
    Run.of_follow .start hraced
  have hlisted : ∀ v ∈ (follow .fresh closing).1, v.created?.map (·.2) = some 1 →
      ¬ v.store.IsClosed 1 := by decide +kernel
  have closed : (follow .fresh closing).2.IsClosed 1 := by decide +kernel
  refine ⟨closed, (run.closed_accounts_out_iff 1).mpr ?_ _ mem_seen closed⟩
  intro v hv b created
  exact hlisted v hv (by simp [created])

/-- The closed account owns a live book and is in an active exchange. -/
theorem closed_account_back :
    ∃ log t, Run (fun _ => Command.IsService) .fresh log t ∧ t.IsClosed 1 ∧ t.Lists 1 ∧
      t.InExchange 1 := by
  have run := run_services .fresh relisting (by
    simp [relisting, closing, opening, Command.IsService])
  have closed : (follow .fresh relisting).2.IsClosed 1 := by decide +kernel
  have hlists : ((follow .fresh relisting).2.books.get? 3).any fun row =>
      row.isLive && row.owner == 1 := by decide +kernel
  have hexchange : ((follow .fresh relisting).2.exchanges.get? 1).any fun row =>
      row.isActive && row.recipient == 1 := by decide +kernel
  simp only [Option.any_eq_true, Bool.and_eq_true, beq_iff_eq] at hlists hexchange
  obtain ⟨book, hbook, live, howner⟩ := hlists
  obtain ⟨row, hrow, hactive, hrecipient⟩ := hexchange
  exact ⟨_, _, run, closed, ⟨3, book, hbook, live, howner⟩, 1, _, ⟨row, hrow, hactive, rfl⟩,
    .inr hrecipient⟩

end Run

end Market

end BookExchange
