import BookExchange.Proofs.Call
import BookExchange.Proofs.Table
import BookExchange.Store.Exchanges
import BookExchange.Store.Reviews
import BookExchange.Store.Users

/-! The statements of the store: when each of them succeeds, and the store that it leaves. -/
namespace BookExchange
open Text Call

namespace Store
variable {s t : Store}

/-- One statement on the row of a book. -/
def setBook (s : Store) (id : BookId) (f : Time → BookRow → BookRow) : Store :=
  { s with books := s.books.modify id (f s.clock) }.tick

/-- One statement on the row of an exchange. -/
def setExchange (s : Store) (id : ExchangeId) (f : Time → ExchangeRow → ExchangeRow) : Store :=
  { s with exchanges := s.exchanges.modify id (f s.clock) }.tick

section Projections
variable (s : Store) (id : Int) (f : Time → BookRow → BookRow)
  (g : Time → ExchangeRow → ExchangeRow)

@[simp] theorem tick_users : s.tick.users = s.users := rfl
@[simp] theorem tick_books : s.tick.books = s.books := rfl
@[simp] theorem tick_genres : s.tick.genres = s.genres := rfl
@[simp] theorem tick_links : s.tick.links = s.links := rfl
@[simp] theorem tick_exchanges : s.tick.exchanges = s.exchanges := rfl
@[simp] theorem tick_reviews : s.tick.reviews = s.reviews := rfl
@[simp] theorem setBook_users : (s.setBook id f).users = s.users := rfl
@[simp] theorem setBook_exchanges : (s.setBook id f).exchanges = s.exchanges := rfl
@[simp] theorem setExchange_users : (s.setExchange id g).users = s.users := rfl
@[simp] theorem setExchange_books : (s.setExchange id g).books = s.books := rfl

@[simp] theorem setBook_nextId : (s.setBook id f).books.nextId = s.books.nextId :=
  Table.nextId_modify ..

@[simp] theorem setBook_get? (j : BookId) :
    (s.setBook id f).books.get? j =
      if j = id then (s.books.get? j).map (f s.clock) else s.books.get? j :=
  Table.get?_modify ..

@[simp] theorem setExchange_get? (j : ExchangeId) :
    (s.setExchange id g).exchanges.get? j =
      if j = id then (s.exchanges.get? j).map (g s.clock) else s.exchanges.get? j :=
  Table.get?_modify ..

end Projections

theorem isSome_setBook (s : Store) (id : BookId) (f : Time → BookRow → BookRow) (j : BookId) :
    ((s.setBook id f).books.get? j).isSome = (s.books.get? j).isSome :=
  Table.isSome_get?_modify ..

theorem exists_of_setBook_get? {id j : BookId} {f : Time → BookRow → BookRow} {row : BookRow}
    (h : (s.setBook id f).books.get? j = some row) : ∃ row, s.books.get? j = some row := by
  rw [setBook_get?] at h
  split at h
  · obtain ⟨row, hrow, -⟩ := Option.map_eq_some_iff.mp h
    exact ⟨row, hrow⟩
  · exact ⟨row, h⟩

theorem liveBook?_eq_some {id : BookId} {row : BookRow} :
    s.liveBook? id = some row ↔ s.books.get? id = some row ∧ row.isLive := by
  simp [liveBook?, Option.filter_eq_some_iff]

theorem liveUser?_eq_some {id : UserId} {row : UserRow} :
    s.liveUser? id = some row ↔ s.users.get? id = some row ∧ row.isLive := by
  simp [liveUser?, Option.filter_eq_some_iff]

theorem user?_eq_some {id : UserId} {u : User} : s.user? id = some u ↔
    ∃ row, s.users.get? id = some row ∧ row.isLive ∧ row.view id = u := by
  simp [user?, liveUser?_eq_some, and_assoc]

/-! The statements, one by one. -/

theorem updateBook_bind_eq_ok {id : BookId} {condition : BookRow → Bool}
    {f : Time → BookRow → BookRow} {α : Type} {a : α} {k : Bool → Call α} (hk : Refuses (k false)) :
    outcome (updateBook id condition f >>= k) s = (.ok a, t) ↔
      s.locked = false ∧ ∃ row, s.books.get? id = some row ∧ condition row ∧
        outcome (k true) (s.setBook id f) = (.ok a, t) :=
  update_bind_eq_ok hk

theorem updateExchange_bind_eq_ok {id : ExchangeId} {status : Exchange.Status}
    {f : Time → ExchangeRow → ExchangeRow} {α : Type} {a : α} {k : Bool → Call α}
    (hk : Refuses (k false)) :
    outcome (updateExchange id status f >>= k) s = (.ok a, t) ↔
      s.locked = false ∧ ∃ row, s.exchanges.get? id = some row ∧ row.status = .known status ∧
        outcome (k true) (s.setExchange id f) = (.ok a, t) := by
  rw [updateExchange, update_bind_eq_ok hk]
  simp only [beq_iff_eq, setExchange]

theorem removeBook_eq_ok {id : BookId} :
    outcome (removeBook id) s = (.ok (), t) ↔ s.locked = false ∧
      ∃ row, s.books.get? id = some row ∧ row.isFree ∧ t = s.setBook id .remove := by
  rw [removeBook, updateBook_bind_eq_ok (refuses_bind fun _ => refuses_throw _)]
  simp [@eq_comm _ t]

theorem reserve_eq_ok {id : BookId} :
    outcome (reserve id) s = (.ok (), t) ↔ s.locked = false ∧
      ∃ row, s.books.get? id = some row ∧ row.isFree ∧ t = s.setBook id .reserve := by
  rw [reserve, updateBook_bind_eq_ok (refuses_bind fun _ => refuses_throw _)]
  simp [@eq_comm _ t]

theorem reserveOwned_eq_ok {id : BookId} {owner : UserId} {notOwner : Failure} :
    outcome (reserveOwned id owner notOwner) s = (.ok (), t) ↔ s.locked = false ∧
      ∃ row, s.books.get? id = some row ∧ row.owner = owner ∧ row.isFree ∧
        t = s.setBook id .reserve := by
  rw [reserveOwned, updateBook_bind_eq_ok]
  · simp [@eq_comm _ t, and_assoc]
  · intro u a v hu
    cases hlive : u.liveBook? id <;> simp [outcome_bind, hlive] at hu

theorem release_eq_ok {id : BookId} :
    outcome (release id) s = (.ok (), t) ↔ s.locked = false ∧
      ∃ row, s.books.get? id = some row ∧ t = s.setBook id .release := by
  rw [release, updateBook_bind_eq_ok (refuses_throw _)]
  simp [@eq_comm _ t]

theorem release_of_isSome {id : BookId} (unlocked : s.locked = false)
    (found : (s.books.get? id).isSome) :
    outcome (release id) s = (.ok (), s.setBook id .release) := by
  obtain ⟨row, hrow⟩ := Option.isSome_iff_exists.mp found
  exact release_eq_ok.mpr ⟨unlocked, row, hrow, rfl⟩

theorem transfer_eq_ok {id : BookId} {owner : UserId} :
    outcome (transfer id owner) s = (.ok (), t) ↔ s.locked = false ∧
      ∃ row, s.books.get? id = some row ∧ (s.users.get? owner).isSome ∧
        t = s.setBook id (.transfer owner) := by
  rw [transfer, bind_eq_ok]
  simp only [write_eq_ok, Bool.exists_bool]
  cases hb : s.books.get? id with
  | none => simp
  | some row =>
    cases hu : s.users.get? owner with
    | none => simp
    | some user => simp [setBook, @eq_comm _ t]

theorem transfer_of_isSome {id : BookId} {owner : UserId} (unlocked : s.locked = false)
    (found : (s.books.get? id).isSome) (known : (s.users.get? owner).isSome) :
    outcome (transfer id owner) s = (.ok (), s.setBook id (.transfer owner)) := by
  obtain ⟨row, hrow⟩ := Option.isSome_iff_exists.mp found
  exact transfer_eq_ok.mpr ⟨unlocked, row, hrow, known, rfl⟩

/-- A registration is refused for its email alone. -/
theorem outcome_insertUser (unlocked : s.locked = false) (r : User.Registration) :
    outcome (insertUser r) s = if s.emailTaken (trim r.email) 0 then (.error .emailTaken, s)
      else (.ok ((r.row s.clock).view s.users.nextId),
        { s with users := s.users.insert (r.row s.clock) }.tick) := by
  rw [insertUser, outcome_write, if_neg (by simp [unlocked])]
  cases h : s.emailTaken (trim r.email) 0 <;> simp [User.Registration.row, h]

theorem outcome_saveUser (unlocked : s.locked = false) {u : User}
    (live : (s.liveUser? u.id).isSome) :
    outcome (saveUser u) s = if s.emailTaken u.email u.id then (.error .emailTaken, s)
      else (.ok u, { s with users := s.users.modify u.id (.save u) }.tick) := by
  obtain ⟨row, hrow⟩ := Option.isSome_iff_exists.mp live
  cases h : s.emailTaken u.email u.id <;>
    simp [saveUser, outcome_bind, outcome_write, unlocked, hrow, h]

theorem outcome_insertGenre (unlocked : s.locked = false) (name : String) :
    outcome (insertGenre name) s = if s.genreTaken name then (.error .genreTaken, s)
      else (.ok ⟨s.genres.nextId, name, s.clock⟩,
        { s with genres := s.genres.insert ⟨name, s.clock⟩ }.tick) := by
  rw [insertGenre, outcome_write, if_neg (by simp [unlocked])]
  cases s.genreTaken name <;> simp [GenreRow.view]

theorem insertReview_ok {r : Review.Entry} {v : Review}
    (h : outcome (insertReview r) s = (.ok v, t)) :
    v = (r.row s.clock).view s.reviews.nextId ∧
      t = { s with reviews := s.reviews.insert (r.row s.clock) }.tick := by
  have h := (write_eq_ok.mp h).2
  by_cases hbound : r.rating < Review.ratingLeast ∨ Review.ratingGreatest < r.rating
  · simp [hbound] at h
  · simpa [hbound, @eq_comm _ v, @eq_comm _ t] using h

theorem removeReview_eq_ok {id : ReviewId} :
    outcome (removeReview id) s = (.ok (), t) ↔ s.locked = false ∧
      ∃ row, s.reviews.get? id = some row ∧
        t = { s with reviews := s.reviews.erase id }.tick := by
  rw [removeReview, update_bind_eq_ok (refuses_throw _)]
  simp [@eq_comm _ t]

theorem removeUser_eq_ok {id : UserId} :
    outcome (removeUser id) s = (.ok (), t) ↔ s.locked = false ∧
      ∃ row, s.users.get? id = some row ∧ row.isLive ∧ s.hasActiveExchange id = false ∧
        t = { s with
          users := s.users.modify id (.remove s.clock)
          books := s.books.map (.withdraw id (s.clock + 1))
          clock := s.clock + 2 } := by
  rw [removeUser, transaction_eq_ok, update_bind_eq_ok]
  · refine and_congr_right fun unlocked => exists_congr fun row => ?_
    simp [liveUser?_eq_some, write_eq_ok, tick, unlocked, and_assoc, Nat.add_assoc, @eq_comm _ t]
  · intro u a v hu
    cases hl : u.liveUser? id <;> simp [outcome_bind, hl] at hu

theorem link_eq_ok {id : BookId} {genre : GenreId} {g : Genre} :
    outcome (link id genre) s = (.ok g, t) ↔ s.genre? genre = some g ∧ s.locked = false ∧
      s.isLinked id genre = false ∧ t = { s with links := s.links ++ [(id, genre)] } := by
  rw [link, outcome_bind, outcome_read]
  cases hg : s.genre? genre with
  | none => simp
  | some g' =>
    cases hl : s.isLinked id genre <;>
      simp [map_eq_ok, write_eq_ok, hl, and_comm, and_left_comm, @eq_comm _ t]

/-- Each genre is there, and the book is filed under all of them. -/
theorem mapM_link_eq_ok {id : BookId} {genres : List GenreId} {gs : List Genre}
    (h : outcome (genres.mapM (link id)) s = (.ok gs, t)) :
    genres.mapM s.genre? = some gs ∧ t = { s with links := s.links ++ genres.map (id, ·) } := by
  induction genres generalizing s t gs with
  | nil =>
    simp only [List.mapM_nil, outcome_pure, Prod.mk.injEq, Except.ok.injEq] at h
    obtain ⟨rfl, rfl⟩ := h
    simp
  | cons genre genres ih =>
    rw [List.mapM_cons, bind_eq_ok] at h
    obtain ⟨g, u, hg, hrest⟩ := h
    obtain ⟨hfound, -, -, rfl⟩ := link_eq_ok.mp hg
    obtain ⟨gs', v, hgs, hv⟩ := bind_eq_ok.mp hrest
    obtain ⟨hall, rfl⟩ := ih hgs
    simp only [outcome_pure, Prod.mk.injEq, Except.ok.injEq] at hv
    obtain ⟨rfl, rfl⟩ := hv
    have hall' : genres.mapM s.genre? = some gs' := hall
    constructor
    · simp [List.mapM_cons, hfound, hall']
    · simp

theorem insertBook_ok {e : Book.Entry} {b : Book} (h : outcome (insertBook e) s = (.ok b, t)) :
    (s.users.get? e.owner).isSome ∧
      ∃ gs, e.genres.mapM s.genre? = some gs ∧
        b = ⟨s.books.nextId, e.title, e.author, e.description, e.summary, .available, e.owner,
          s.clock, s.clock, gs.mergeSort Genre.before⟩ ∧
        t = { s with
          books := s.books.insert (e.row s.clock)
          links := s.links ++ e.genres.map (s.books.nextId, ·) }.tick := by
  rw [insertBook, transaction_eq_ok, bind_eq_ok] at h
  obtain ⟨⟨id, now⟩, u, hrow, h⟩ := h
  rw [write_eq_ok] at hrow
  obtain ⟨gs, v, hgs, h⟩ := bind_eq_ok.mp h
  obtain ⟨hall, rfl⟩ := mapM_link_eq_ok hgs
  cases hu : s.users.get? e.owner with
  | none => simp [hu] at hrow
  | some owner =>
    simp only [hu, Option.isNone_some, Bool.false_eq_true, ↓reduceIte, Except.ok.injEq,
      Prod.mk.injEq] at hrow
    obtain ⟨-, ⟨rfl, rfl⟩, rfl⟩ := hrow
    simp only [outcome_pure, Prod.mk.injEq, Except.ok.injEq] at h
    obtain ⟨rfl, rfl⟩ := h
    exact ⟨rfl, gs, hall, rfl, rfl⟩

end Store

end BookExchange
