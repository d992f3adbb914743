import BookExchange.Proofs.Folding
import BookExchange.Proofs.Runs

/-! Whatever is written, the keys in the store are those of the texts beside them, and every book has
a status that can be read and an owner whose row is there. -/
namespace BookExchange
open Text

namespace BookRow

/-- The keys are those of the texts, and the status can be read. -/
structure Sound (b : BookRow) : Prop where
  title : b.titleKey = searchKey b.title
  author : b.authorKey = searchKey b.author
  status : ∃ status, b.status = .known status

variable {b : BookRow} {now : Time}

theorem Sound.describe (h : b.Sound) (description : String) : (b.describe description now).Sound :=
  ⟨h.title, h.author, h.status⟩

theorem Sound.remove (h : b.Sound) : (b.remove now).Sound := ⟨h.title, h.author, h.status⟩

theorem Sound.reserve (h : b.Sound) : (b.reserve now).Sound := ⟨h.title, h.author, .reserved, rfl⟩

theorem Sound.release (h : b.Sound) : (b.release now).Sound := ⟨h.title, h.author, .available, rfl⟩

theorem Sound.transfer (h : b.Sound) (owner : UserId) : (b.transfer owner now).Sound :=
  ⟨h.title, h.author, h.status⟩

theorem Sound.withdraw (h : b.Sound) (owner : UserId) : (b.withdraw owner now).Sound := by
  rw [BookRow.withdraw]
  split
  · exact ⟨h.title, h.author, h.status⟩
  · exact h

theorem withdraw_owner (b : BookRow) (owner : UserId) (now : Time) :
    (b.withdraw owner now).owner = b.owner := by
  rw [BookRow.withdraw]
  split <;> rfl

end BookRow

theorem Book.Entry.row_sound (e : Book.Entry) (now : Time) : (e.row now).Sound :=
  ⟨rfl, rfl, .available, rfl⟩

namespace Store
variable {s t : Store}

/-- Every row has the keys of its texts, and every book a row of its owner. -/
structure Keyed (s : Store) : Prop where
  books : ∀ id row, s.books.get? id = some row → row.Sound ∧ (s.users.get? row.owner).isSome
  users : ∀ id row, s.users.get? id = some row → row.cityKey = searchKey row.city

theorem keyed_fresh : Store.fresh.Keyed := by
  constructor <;> simp [Store.fresh]

theorem Keyed.setExchange (h : s.Keyed) (id : ExchangeId) (f : Time → ExchangeRow → ExchangeRow) :
    (s.setExchange id f).Keyed := ⟨h.books, h.users⟩

theorem Keyed.setBook (h : s.Keyed) {id : BookId} {f : Time → BookRow → BookRow}
    (sound : ∀ now row, row.Sound → (f now row).Sound)
    (owned : ∀ now row, (f now row).owner = row.owner ∨ (s.users.get? (f now row).owner).isSome) :
    (s.setBook id f).Keyed := by
  refine ⟨fun b row found => ?_, h.users⟩
  rw [setBook_get?] at found
  split at found
  · obtain ⟨row', found', rfl⟩ := Option.map_eq_some_iff.mp found
    obtain ⟨hsound, hknown⟩ := h.books b row' found'
    refine ⟨sound _ _ hsound, ?_⟩
    obtain howner | hnew := owned s.clock row'
    · rwa [howner]
    · exact hnew
  · exact h.books b row found

theorem Keyed.reserve (h : s.Keyed) (id : BookId) : (s.setBook id .reserve).Keyed :=
  h.setBook (fun _ _ hrow => hrow.reserve) fun _ _ => .inl rfl

theorem Keyed.release (h : s.Keyed) (id : BookId) : (s.setBook id .release).Keyed :=
  h.setBook (fun _ _ hrow => hrow.release) fun _ _ => .inl rfl

theorem Keyed.transfer (h : s.Keyed) (id : BookId) {owner : UserId}
    (known : (s.users.get? owner).isSome) : (s.setBook id (.transfer owner)).Keyed :=
  h.setBook (fun _ _ hrow => hrow.transfer owner) fun _ _ => .inr known

/-- Users may come and change their texts, as long as none goes. -/
theorem Keyed.of_users (h : s.Keyed) (hb : t.books = s.books)
    (hkept : ∀ id, (s.users.get? id).isSome → (t.users.get? id).isSome)
    (hkeys : ∀ id row, t.users.get? id = some row → row.cityKey = searchKey row.city) : t.Keyed := by
  refine ⟨fun b row found => ?_, hkeys⟩
  obtain ⟨hsound, hknown⟩ := h.books b row (hb ▸ found)
  exact ⟨hsound, hkept _ hknown⟩

end Store

namespace Market
variable {s t : Store} {p : Port}

theorem keyed_insertUser {r : User.Registration} (h : (Port.insertUser r).Writes s t)
    (keyed : s.Keyed) : t.Keyed := by
  cases h
  refine keyed.of_users rfl (fun id hid => ?_) fun id row found => ?_
  · rw [Store.tick_users, Table.get?_insert]
    split
    · rfl
    · exact hid
  · rw [Store.tick_users, Table.get?_insert] at found
    split at found
    · cases found
      exact (searchKey_trim r.city).symm
    · exact keyed.users id row found

theorem keyed_saveUser {u : User} (h : (Port.saveUser u).Writes s t) (keyed : s.Keyed) :
    t.Keyed := by
  cases h
  refine keyed.of_users rfl (fun id hid => ?_) fun id row found => ?_
  · rwa [Store.tick_users, Table.isSome_get?_modify]
  · rw [Store.tick_users, Table.get?_modify] at found
    split at found
    · obtain ⟨row', -, rfl⟩ := Option.map_eq_some_iff.mp found
      rfl
    · exact keyed.users id row found

theorem keyed_removeUser {u : UserId} (h : (Port.removeUser u).Writes s t) (keyed : s.Keyed) :
    t.Keyed := by
  cases h
  constructor
  · intro b row found
    rw [Table.get?_map] at found
    obtain ⟨row', found', rfl⟩ := Option.map_eq_some_iff.mp found
    obtain ⟨hsound, hknown⟩ := keyed.books b row' found'
    rw [BookRow.withdraw_owner, Table.isSome_get?_modify]
    exact ⟨hsound.withdraw u, hknown⟩
  · intro id row found
    rw [Table.get?_modify] at found
    split at found
    · obtain ⟨row', found', rfl⟩ := Option.map_eq_some_iff.mp found
      exact keyed.users id row' found'
    · exact keyed.users id row found

theorem keyed_insertBook {e : Book.Entry} (h : (Port.insertBook e).Writes s t) (keyed : s.Keyed) :
    t.Keyed := by
  cases h with
  | insertBook known filed =>
    refine ⟨fun b row found => ?_, keyed.users⟩
    rw [Store.tick_books, Table.get?_insert] at found
    split at found
    · cases found
      exact ⟨e.row_sound s.clock, known⟩
    · exact keyed.books b row found

theorem Port.Writes.keyed (h : p.Writes s t) (keyed : s.Keyed) : t.Keyed := by
  cases p with
  | insertUser r => exact keyed_insertUser h keyed
  | saveUser u => exact keyed_saveUser h keyed
  | removeUser id => exact keyed_removeUser h keyed
  | insertBook e => exact keyed_insertBook h keyed
  | describe id description =>
    cases h
    exact keyed.setBook (fun _ _ hrow => hrow.describe description) fun _ _ => .inl rfl
  | removeBook id =>
    cases h
    exact keyed.setBook (fun _ _ hrow => hrow.remove) fun _ _ => .inl rfl
  | reserve id =>
    cases h
    exact keyed.reserve id
  | release id =>
    cases h
    exact keyed.release id
  | transfer id owner =>
    cases h with
    | transfer found known => exact keyed.transfer id known
  | insertExchange q =>
    cases h
    obtain ⟨hbooks, husers⟩ := (keyed.reserve q.initiatorBook).reserve q.recipientBook
    exact ⟨hbooks, husers⟩
  | acceptExchange e =>
    cases h
    exact keyed.setExchange e.id _
  | completeExchange e =>
    cases h with
    | completeExchange found accepted mineFound theirsFound known =>
      have hexchange := keyed.setExchange e.id (.complete e.completedAt)
      have hmine := hexchange.transfer e.initiatorBook known.2
      have htheirs := hmine.transfer e.recipientBook known.1
      exact (htheirs.release e.initiatorBook).release e.recipientBook
  | cancelExchange e =>
    cases h
    exact ((keyed.setExchange e.id .cancel).release e.initiatorBook).release e.recipientBook
  | insertGenre | removeGenre | insertReview | removeReview =>
    cases h
    exact ⟨keyed.books, keyed.users⟩

theorem Run.keyed {allowed : List Store → Command → Prop} {log : List Event}
    (run : Run allowed .fresh log s) : s.Keyed :=
  run.preserves Store.keyed_fresh fun _ c keyed => c.after_keeps keyed fun _ hw => hw.keyed keyed

end Market

end BookExchange
