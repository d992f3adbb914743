import BookExchange.Proofs.Agreement
import BookExchange.Proofs.Closure
import BookExchange.Proofs.Emails
import BookExchange.Proofs.Erasure

/-! What is deleted stays deleted. Rows are only marked, and `release` and `transfer` write to marked
rows, too; but no statement takes a mark away, and every other statement and every query asks for
unmarked rows. -/
namespace BookExchange
open Text Call

namespace Store
variable {s t : Store} {b : BookId} {u : UserId}

theorem IsBuried.setBook (h : s.IsBuried b) (id : BookId) {f : Time → BookRow → BookRow}
    (hf : ∀ now row, row.isLive = false → (f now row).isLive = false) :
    (s.setBook id f).IsBuried b := by
  obtain ⟨row, found, hlive⟩ := h
  by_cases hb : b = id
  · exact ⟨f s.clock row, by simp [← hb, found], hf _ _ hlive⟩
  · exact ⟨row, by simp [hb, found], hlive⟩

theorem IsBuried.reserve (h : s.IsBuried b) (id : BookId) : (s.setBook id .reserve).IsBuried b :=
  h.setBook id fun _ _ hlive => hlive

theorem IsBuried.release (h : s.IsBuried b) (id : BookId) : (s.setBook id .release).IsBuried b :=
  h.setBook id fun _ _ hlive => hlive

theorem IsBuried.transfer (h : s.IsBuried b) (id : BookId) (owner : UserId) :
    (s.setBook id (.transfer owner)).IsBuried b :=
  h.setBook id fun _ _ hlive => hlive

theorem IsBuried.setExchange (h : s.IsBuried b) (id : ExchangeId)
    (f : Time → ExchangeRow → ExchangeRow) : (s.setExchange id f).IsBuried b := h

end Store

namespace Market
variable {summarize : String → String} {s t : Store} {p : Port} {c : Command} {a : Answer}
  {b : BookId} {u : UserId}

/-- No write unburies a book. -/
theorem Port.Writes.isBuried (h : p.Writes s t) (buried : s.IsBuried b) : t.IsBuried b := by
  cases h with
  | @removeUser id =>
    obtain ⟨row, found, hlive⟩ := buried
    refine ⟨row, ?_, hlive⟩
    simp [Table.get?_map, found, BookRow.withdraw, hlive]
  | insertBook =>
    obtain ⟨row, found, hlive⟩ := buried
    have hne : b ≠ s.books.nextId := Int.ne_of_lt (Table.lt_nextId found)
    exact ⟨row, by simp [Table.get?_insert, hne, found], hlive⟩
  | describe => exact buried.setBook _ fun _ _ hlive => hlive
  | removeBook => exact buried.setBook _ fun _ _ _ => rfl
  | reserve => exact buried.reserve _
  | release => exact buried.release _
  | transfer => exact buried.transfer _ _
  | insertExchange => exact (buried.reserve _).reserve _
  | completeExchange =>
    exact ((((buried.setExchange _ _).transfer _ _).transfer _ _).release _).release _
  | cancelExchange => exact ((buried.setExchange _ _).release _).release _
  | _ => exact buried

/-- Nor does one touch the row of a closed account. -/
theorem Port.Writes.closed_row {row : UserRow} (h : p.Writes s t)
    (found : s.users.get? u = some row) (closed : row.isLive = false) :
    t.users.get? u = some row := by
  cases h with
  | insertUser =>
    have hne : u ≠ s.users.nextId := Int.ne_of_lt (Table.lt_nextId found)
    simpa [Table.get?_insert, hne] using found
  | @saveUser v row' found' live =>
    have hne : u ≠ v.id := by
      intro hu
      rw [← hu, found] at found'
      cases found'
      simp [closed] at live
    simpa [Table.get?_modify, hne] using found
  | @removeUser id row' found' live =>
    have hne : u ≠ id := by
      intro hu
      rw [← hu, found] at found'
      cases found'
      simp [closed] at live
    simpa [Table.get?_modify, hne] using found
  | _ => exact found

/-- The command asks for the book to be there. -/
def Command.NeedsBook (c : Command) (b : BookId) : Prop :=
  match c with
  | .service _ (.getBook id) | .service _ (.updateBook id _ _) | .service _ (.deleteBook id _)
  | .port (.describe id _) | .port (.removeBook id) | .port (.reserve id) => id = b
  | .service _ (.createExchange _ r) => r.initiatorBook = b ∨ r.recipientBook = b
  | .port (.insertExchange p) => p.Names b
  | _ => False

/-- The command asks for the account to be open. -/
def Command.NeedsUser (c : Command) (u : UserId) : Prop :=
  match c with
  | .service _ (.getUser id) | .service _ (.profile id) | .service _ (.updateUser id _ _)
  | .service _ (.deleteUser id _) | .port (.removeUser id) => id = u
  | .port (.saveUser v) => v.id = u
  | _ => False

theorem getBook_of_buried (buried : s.IsBuried b) :
    outcome (getBook b) s = (.error (.bookNotFound b), s) := by
  have hb := Store.book?_of_none buried.liveBook?_eq_none
  simp [getBook, outcome_bind, hb]

/-- No port takes a buried book for a free or a live one. -/
theorem Port.Writes.not_needsBook (h : p.Writes s t) (buried : s.IsBuried b) :
    ¬ (Command.port p).NeedsBook b := by
  intro needs
  obtain ⟨row, found, hlive⟩ := buried
  have hfree : row.isFree = false := by simp [BookRow.isFree, hlive]
  cases h with
  | describe found' live =>
    cases needs
    cases found.symm.trans found'
    simp [hlive] at live
  | removeBook found' free =>
    cases needs
    cases found.symm.trans found'
    simp [hfree] at free
  | reserve found' free =>
    cases needs
    cases found.symm.trans found'
    simp [hfree] at free
  | insertExchange mineFound mineOwned mineFree theirsFound theirsOwned theirsFree =>
    obtain rfl | rfl := needs
    · cases found.symm.trans mineFound
      simp [hfree] at mineFree
    · cases found.symm.trans theirsFound
      simp [hfree] at theirsFree
  | _ => exact needs

theorem not_ok_of_getBook {id : BookId} (hid : id = b) (buried : s.IsBuried b) :
    (Command.service summarize (.getBook id)).answer s ≠ .ok a := by
  intro h
  have hget : (outcome (perform summarize (.getBook id)) s).1 = .ok a := h
  simp [perform, outcome_map, hid, getBook_of_buried buried] at hget

theorem not_ok_of_updateBook {id : BookId} {actor : UserId} {change : Book.Change} (hid : id = b)
    (buried : s.IsBuried b) :
    (Command.service summarize (.updateBook id actor change)).answer s ≠ .ok a := by
  intro h
  have hupdate : (outcome (perform summarize (.updateBook id actor change)) s).1 = .ok a := h
  simp [perform, updateBook, outcome_bind, hid, getBook_of_buried buried] at hupdate

/-- Nothing that asks for a buried book succeeds. -/
theorem Command.not_ok_of_buried (buried : s.IsBuried b) (needs : c.NeedsBook b) (a : Answer) :
    c.answer s ≠ .ok a := by
  intro h
  have hbook : ∀ k, s.book? b ≠ .ok (some k) := by
    intro k hk
    simp [Store.book?_of_none buried.liveBook?_eq_none] at hk
  obtain query | ⟨p, calls, hw⟩ := Command.writes_of_ok h
  · cases c with
    | port p => cases query
    | service summarize op =>
      cases op with
      | getBook id => exact not_ok_of_getBook needs buried h
      | updateBook id actor change => exact not_ok_of_updateBook needs buried h
      | deleteBook id actor => cases query
      | createExchange initiator r => cases query
      | _ => exact needs
  · cases calls with
    | port => exact hw.not_needsBook buried needs
    | service reached =>
      cases reached with
      | updateBook found => exact hbook _ (needs ▸ found)
      | deleteBook found => exact hbook _ (needs ▸ found)
      | createExchange _ mineFound theirsFound =>
        obtain rfl | rfl := needs
        · exact hbook _ mineFound
        · exact hbook _ theirsFound
      | _ => exact needs

/-! The same of closed accounts. -/

theorem user?_of_closed (closed : s.IsClosed u) : s.user? u = none := by
  obtain ⟨row, found, hlive⟩ := closed
  simp [Store.user?, Store.liveUser?, found, hlive]

theorem not_closed_of_user? {v : User} (found : s.user? u = some v) : ¬ s.IsClosed u := by
  intro closed
  simp [user?_of_closed closed] at found

theorem getUser_of_closed (closed : s.IsClosed u) :
    outcome (getUser u) s = (.error (.userNotFound u), s) := by
  simp [getUser, outcome_bind, user?_of_closed closed]

theorem not_ok_of_getUser {id : UserId} (hid : id = u) (closed : s.IsClosed u) :
    (Command.service summarize (.getUser id)).answer s ≠ .ok a := by
  intro h
  have hget : (outcome (perform summarize (.getUser id)) s).1 = .ok a := h
  simp [perform, outcome_map, hid, getUser_of_closed closed] at hget

theorem not_ok_of_profile {id : UserId} (hid : id = u) (closed : s.IsClosed u) :
    (Command.service summarize (.profile id)).answer s ≠ .ok a := by
  intro h
  have hprofile : (outcome (perform summarize (.profile id)) s).1 = .ok a := h
  simp [perform, profile, outcome_bind, hid, getUser_of_closed closed] at hprofile

/-- No port takes a closed account for an open one. -/
theorem Port.Writes.not_needsUser (h : p.Writes s t) (closed : s.IsClosed u) :
    ¬ (Command.port p).NeedsUser u := by
  intro needs
  obtain ⟨row, found, hlive⟩ := closed
  cases h with
  | saveUser found' live =>
    cases needs
    cases found.symm.trans found'
    simp [hlive] at live
  | removeUser found' live =>
    cases needs
    cases found.symm.trans found'
    simp [hlive] at live
  | _ => exact needs

/-- Nothing that asks for a closed account succeeds. -/
theorem Command.not_ok_of_closed (closed : s.IsClosed u) (needs : c.NeedsUser u) (a : Answer) :
    c.answer s ≠ .ok a := by
  intro h
  have huser : ∀ v, s.user? u ≠ some v := by simp [user?_of_closed closed]
  obtain query | ⟨p, calls, hw⟩ := Command.writes_of_ok h
  · cases c with
    | port p => cases query
    | service summarize op =>
      cases op with
      | getUser id => exact not_ok_of_getUser needs closed h
      | profile id => exact not_ok_of_profile needs closed h
      | updateUser id actor change => cases query
      | deleteUser id actor => cases query
      | _ => exact needs
  · cases calls with
    | port => exact hw.not_needsUser closed needs
    | service reached =>
      cases reached with
      | updateUser valid found => exact huser _ (needs ▸ found)
      | deleteUser found => exact huser _ (needs ▸ found)
      | _ => exact needs

/-- The answer has the user in it. -/
def Answer.ShowsUser (u : UserId) : Answer → Prop
  | .user v => v.id = u
  | .profile v => v.id = u
  | .users p => ∃ v ∈ p.data, v.id = u
  | _ => False

theorem not_closed_of_usersAfter {after : UserId} {limit : Nat} {v : User}
    (h : v ∈ s.usersAfter after limit) : ¬ s.IsClosed v.id := by
  intro closed
  obtain ⟨row, found, hlive⟩ := closed
  obtain ⟨⟨id, row'⟩, hr, rfl⟩ := List.mem_map.mp h
  obtain ⟨hentry, hcondition⟩ := List.mem_filter.mp (List.mem_of_mem_take hr)
  have found' : s.users.get? id = some row' := Table.mem_entries.mp hentry
  cases found.symm.trans found'
  simp [hlive] at hcondition

theorem not_closed_of_getUser {id : UserId} {v : User} (h : outcome (getUser id) s = (.ok v, t)) :
    ¬ s.IsClosed v.id := by
  obtain ⟨f, hf⟩ | ⟨v', found, hv⟩ := getUser_cases id s
  · cases hf.symm.trans h
  · cases hv.symm.trans h
    rw [id_of_user? found]
    exact not_closed_of_user? found

theorem not_closed_of_profile {id : UserId} {v : User.Profile}
    (h : outcome (profile id) s = (.ok v, t)) : ¬ s.IsClosed v.id := by
  obtain ⟨user, s₁, huser, h⟩ := bind_eq_ok.mp h
  obtain ⟨books, s₂, -, h⟩ := bind_eq_ok.mp h
  obtain ⟨completed, s₃, -, h⟩ := bind_eq_ok.mp h
  obtain ⟨rating, s₄, -, h⟩ := bind_eq_ok.mp h
  cases h
  exact not_closed_of_getUser huser

theorem not_closed_of_listUsers {q : Directory.Query} {page : Directory.Page}
    (h : outcome (listUsers q) s = (.ok page, t)) {v : User} (hv : v ∈ page.data) :
    ¬ s.IsClosed v.id := by
  obtain ⟨users, s₁, hread, h⟩ := bind_eq_ok.mp h
  cases hread
  cases h
  exact not_closed_of_usersAfter hv

/-- What a query shows is open. -/
theorem not_closed_of_showsUser {op : Operation} (query : op.isQuery)
    (h : outcome (perform summarize op) s = (.ok a, t)) (shown : a.ShowsUser u) :
    ¬ s.IsClosed u := by
  cases op with
  | getUser id =>
    rw [perform, map_eq_ok] at h
    obtain ⟨v, h, rfl⟩ := h
    exact shown ▸ not_closed_of_getUser h
  | profile id =>
    rw [perform, map_eq_ok] at h
    obtain ⟨v, h, rfl⟩ := h
    exact shown ▸ not_closed_of_profile h
  | listUsers q =>
    rw [perform, map_eq_ok] at h
    obtain ⟨page, h, rfl⟩ := h
    obtain ⟨v, hv, rfl⟩ := shown
    exact not_closed_of_listUsers h hv
  | updateBook id actor change =>
    obtain ⟨_ | description⟩ := change
    · rw [perform, map_eq_ok] at h
      obtain ⟨x, -, rfl⟩ := h
      exact shown.elim
    · cases query
  | getBook id | searchBooks q | booksOf owner status | availableBooks city | getGenre id | listGenres
  | getExchange id | listExchanges | exchangesOf user status | reviewsOfUser user
  | reviewsOfBook book | ratingOf user =>
    -- The answer is no user.
    rw [perform, map_eq_ok] at h
    obtain ⟨x, -, rfl⟩ := h
    exact shown.elim
  | _ => cases query

/-! Exchanges. -/

/-- Where all rows can be read, each of them is. -/
theorem mem_views {rows : List (ExchangeId × ExchangeRow)}
    (hviews : ∀ r ∈ rows, ∃ e, r.2.view r.1 = .ok e) {x : ExchangeId} {row : ExchangeRow}
    {e : Exchange} (hmem : (x, row) ∈ rows) (hview : row.view x = .ok e) :
    ∃ es, rows.mapM (fun r => r.2.view r.1) = .ok es ∧ e ∈ es := by
  obtain ⟨es, hes, hall⟩ := exists_mapM hviews
  exact ⟨es, hes, hall (x, row) hmem e hview⟩

/-- The exchange is answered with when asked for, and listed among all and among those of its
parties. -/
structure Readable (s : Store) (e : Exchange) : Prop where
  found : outcome (getExchange e.id) s = (.ok e, s)
  listed : ∃ es, s.allExchanges = .ok es ∧ e ∈ es
  listedOf (u : UserId) (party : e.terms.HasParty u) (status : Option Exchange.Status)
    (lets : status.all (e.status = ·)) : ∃ es, s.exchangesOf u status = .ok es ∧ e ∈ es

theorem view_of_known {row : ExchangeRow} {status : Exchange.Status}
    (hs : row.status = .known status) (x : ExchangeId) :
    row.view x = .ok ⟨x, row.initiator, row.recipient, row.initiatorBook, row.recipientBook, status,
      row.completedAt, row.createdAt, row.updatedAt⟩ := by
  simp [ExchangeRow.view, hs, Stored.decode, bind, Except.bind, pure, Except.pure]

theorem exists_view (dated : ∀ id row, s.exchanges.get? id = some row → row.Dated) {x : ExchangeId}
    {row : ExchangeRow} (found : s.exchanges.get? x = some row) : ∃ e, row.view x = .ok e := by
  obtain ⟨status, hs, -⟩ := dated x row found
  exact ⟨_, view_of_known hs x⟩

/-- Where every status can be read, every exchange can. -/
theorem readable_of_dated (dated : ∀ id row, s.exchanges.get? id = some row → row.Dated)
    {x : ExchangeId} {row : ExchangeRow} (found : s.exchanges.get? x = some row) :
    ∃ e, e.id = x ∧ e.terms = row.terms ∧ Readable s e := by
  have hviews : ∀ r ∈ s.exchanges.entries, ∃ e, r.2.view r.1 = .ok e := fun r hr =>
    exists_view dated (Table.mem_entries.mp hr)
  have hentry : (x, row) ∈ s.exchanges.entries := Table.mem_entries.mpr found
  obtain ⟨status, hs, -⟩ := dated x row found
  have hexchange := Store.exchange?_eq_some.mpr ⟨row, status, found, hs, rfl⟩
  have hview := view_of_known hs x
  refine ⟨⟨x, row.initiator, row.recipient, row.initiatorBook, row.recipientBook, status,
    row.completedAt, row.createdAt, row.updatedAt⟩, rfl, rfl, ?_, ?_, ?_⟩
  · rw [Move.outcome_getExchange, Move.load_of_exchange? hexchange]
  · exact mem_views hviews hentry hview
  · intro u party filter lets
    have hnames : row.names u := by
      obtain rfl | rfl := party <;> simp [ExchangeRow.names, Exchange.terms]
    have hstatus : filter.all (row.status == .known ·) := by
      cases filter with
      | none => rfl
      | some status' => simpa [hs] using lets
    refine mem_views (fun r hr => hviews r ?_) ?_ hview
    · exact (List.mem_filter.mp (List.mem_mergeSort.mp hr)).1
    · rw [List.mem_mergeSort, List.mem_filter]
      exact ⟨hentry, by simp [hnames, hstatus]⟩

/-! Deletions. -/

/-- The port through which a command deletes a book or a user. -/
def Command.deletion? : Command → Option Port
  | .service _ (.deleteBook id _) | .port (.removeBook id) => some (.removeBook id)
  | .service _ (.deleteUser id _) | .port (.removeUser id) => some (.removeUser id)
  | _ => none

/-- A deletion of the user has succeeded. -/
def Event.Closes (v : Event) (u : UserId) : Prop :=
  v.answer = .ok .done ∧ v.command.deletion? = some (.removeUser u)

/-- A deletion of the book or of its owner has succeeded. -/
def Event.Buries (v : Event) (b : BookId) : Prop :=
  v.answer = .ok .done ∧ v.command.deletion? = some (.removeBook b) ∨
    ∃ row, v.store.books.get? b = some row ∧ v.Closes row.owner

theorem Command.writes_of_deletion (h : c.answer s = .ok a) (deletes : c.deletion? = some p) :
    p.Writes s (c.after s) := by
  obtain query | ⟨q, calls, hw⟩ := Command.writes_of_ok h
  · cases c with
    | port q => cases query
    | service summarize op =>
      cases op with
      | deleteBook | deleteUser => cases query
      | _ => cases deletes
  · cases calls with
    | port =>
      cases q with
      | removeBook | removeUser =>
        cases deletes
        exact hw
      | _ => cases deletes
    | service reached =>
      cases reached with
      | deleteBook | deleteUser =>
        cases deletes
        exact hw
      | _ => cases deletes

namespace Event
variable {v : Event}

theorem Closes.after (h : v.Closes u) :
    v.after.IsClosed u ∧ v.after.exchanges = v.store.exchanges := by
  have hw := Command.writes_of_deletion h.1 h.2
  show (v.command.after v.store).IsClosed u ∧ (v.command.after v.store).exchanges = _
  generalize v.command.after v.store = t at hw
  cases hw with
  | @removeUser id row found =>
    exact ⟨⟨row.remove v.store.clock, by simp [Table.get?_modify, found], rfl⟩, rfl⟩

theorem Buries.after (h : v.Buries b) :
    v.after.IsBuried b ∧ v.after.exchanges = v.store.exchanges := by
  show (v.command.after v.store).IsBuried b ∧ (v.command.after v.store).exchanges = _
  obtain ⟨answered, deletes⟩ | ⟨row, found, answered, deletes⟩ := h
  · have hw := Command.writes_of_deletion answered deletes
    generalize v.command.after v.store = t at hw
    cases hw with
    | @removeBook id row found =>
      exact ⟨⟨row.remove v.store.clock, by simp [found], rfl⟩, rfl⟩
  · have hw := Command.writes_of_deletion answered deletes
    generalize v.command.after v.store = t at hw
    cases hw with
    | removeUser =>
      refine ⟨⟨row.withdraw row.owner (v.store.clock + 1), by simp [Table.get?_map, found], ?_⟩, rfl⟩
      exact Bool.eq_false_iff.mpr fun hlive => (BookRow.of_withdraw_isLive hlive).2 rfl

end Event

/-! In a run. -/

/-- The book's row is there, but no query and no command takes it for a book. -/
structure HidesBook (s : Store) (b : BookId) : Prop where
  buried : s.IsBuried b
  /-- Whatever only reads, a search with its total among it, answers as if there were no row. -/
  looks (l : Look) : l.see s = l.see (s.withoutBook b)
  queries (summarize : String → String) (op : Operation) (query : op.isQuery) :
    (Command.service summarize op).answer s = (Command.service summarize op).answer (s.withoutBook b)
  hidden (summarize : String → String) (op : Operation) (query : op.isQuery) (a : Answer)
    (answered : (Command.service summarize op).answer s = .ok a) : ¬ a.Shows b
  status : s.requireStatus b = .error (.bookNotFound b)
  refused (c : Command) (needs : c.NeedsBook b) (a : Answer) : c.answer s ≠ .ok a

/-- The user's row is there as it was, but no query and no command takes it for a user. -/
structure HidesUser (s : Store) (u : UserId) (row : UserRow) : Prop where
  kept : s.users.get? u = some row
  unknown : s.user? u = none
  unlisted (after : UserId) (limit : Nat) : ∀ v ∈ s.usersAfter after limit, v.id ≠ u
  hidden (summarize : String → String) (op : Operation) (query : op.isQuery) (a : Answer)
    (answered : (Command.service summarize op).answer s = .ok a) : ¬ a.ShowsUser u
  refused (c : Command) (needs : c.NeedsUser u) (a : Answer) : c.answer s ≠ .ok a
  /-- The email is nobody else's, -/
  email (id : UserId) (row' : UserRow) (found : s.users.get? id = some row')
    (same : row'.email = row.email) : id = u
  /-- and nobody else can have it. -/
  given (c : Command) (gives : c.GivesEmail row.email u) (a : Answer) : c.answer s ≠ .ok a

theorem hidesBook_of_buried (buried : s.IsBuried b) : HidesBook s b := by
  have hsame : ∀ summarize op, Operation.isQuery op →
      Same (s.withoutBook b) s (perform summarize op) :=
    fun summarize op query => same_of_isQuery (alike_withoutBook buried) query
  constructor
  · exact buried
  · exact fun l => (alike_withoutBook buried l).symm
  · intro summarize op query
    obtain ⟨r, hwithout, hs⟩ := hsame summarize op query
    exact (congrArg Prod.fst hs).trans (congrArg Prod.fst hwithout).symm
  · intro summarize op query a answered shown
    obtain ⟨r, hwithout, hs⟩ := hsame summarize op query
    obtain rfl : r = .ok a := (congrArg Prod.fst hs).symm.trans answered
    have hrow := isSome_of_shows query hwithout shown
    simp [Store.withoutBook_get?] at hrow
  · simp only [Store.requireStatus, Store.statusOf, buried.liveBook?_eq_none]
    rfl
  · exact fun c needs a => c.not_ok_of_buried buried needs a

theorem hidesUser_of_closed {row : UserRow} (found : s.users.get? u = some row)
    (hlive : row.isLive = false) (distinct : s.EmailsDistinct) : HidesUser s u row := by
  have closed : s.IsClosed u := ⟨row, found, hlive⟩
  constructor
  · exact found
  · exact user?_of_closed closed
  · intro after limit v hv hid
    exact not_closed_of_usersAfter hv (hid ▸ closed)
  · intro summarize op query a answered shown
    have h := Command.outcome_perform.mpr ⟨answered, rfl⟩
    exact not_closed_of_showsUser query h shown closed
  · exact fun c needs a => c.not_ok_of_closed closed needs a
  · exact fun id row' found' same => distinct id u row' row found' found same
  · exact fun c gives a => c.not_ok_of_givesEmail found gives a

/-- What deletions have left in the present store of a run; every store of the run was the present
one once. -/
structure Tombstones (log : List Event) (s : Store) : Prop where
  books : ∀ v ∈ log, ∀ b, v.Buries b → HidesBook s b
  users : ∀ v ∈ log, ∀ u, v.Closes u → ∃ row, v.after.users.get? u = some row ∧ HidesUser s u row
  /-- A deletion does not touch exchanges, -/
  exchanges : ∀ v ∈ log, (∃ b, v.Buries b) ∨ (∃ u, v.Closes u) →
    v.after.exchanges = v.store.exchanges
  /-- and whatever book or user an exchange names, it can be read and listed ever after. -/
  readable : ∀ t ∈ seen log s, ∀ x row, t.exchanges.get? x = some row →
    ∃ e, e.id = x ∧ e.terms = row.terms ∧ Readable s e

section Run
variable {allowed : List Store → Command → Prop} {start : Store} {log : List Event} {v : Event}

/-- What holds after an event, of what has happened since, and survives every command holds in the
end. -/
theorem Run.persists_since {P : List Event → Store → Prop} {before since : List Event}
    (run : Run allowed start (before ++ v :: since) s) (hafter : P [] v.after)
    (hstep : ∀ since t c, P since t → P (since ++ [⟨t, c⟩]) (Command.after c t)) : P since s := by
  generalize hlog : before ++ v :: since = log at run
  induction run generalizing since with
  | start => simp at hlog
  | step c run ok ih =>
    obtain rfl | ⟨since, e, rfl⟩ := List.eq_nil_or_concat since
    · have hv := List.singleton_inj.mp (List.append_inj' hlog rfl).2
      subst hv
      exact hafter
    · rw [List.concat_eq_append, ← List.cons_append, ← List.append_assoc] at hlog
      obtain ⟨hbefore, he⟩ := List.append_inj' hlog rfl
      rw [List.concat_eq_append, List.singleton_inj.mp he]
      exact hstep _ _ c (ih hbefore)

theorem Run.persists {P : Store → Prop} (run : Run allowed start log s) (hv : v ∈ log)
    (hafter : P v.after) (hstep : ∀ t c, P t → P (Command.after c t)) : P s :=
  run.preserves_since (run.after_mem_seen hv) hafter hstep

theorem Run.isBuried (run : Run allowed start log s) (hv : v ∈ log) (buried : v.after.IsBuried b) :
    s.IsBuried b :=
  run.persists (P := (·.IsBuried b)) hv buried fun _ c buried =>
    c.after_keeps (P := (·.IsBuried b)) buried fun _ hw => hw.isBuried buried

theorem Run.closed_row {row : UserRow} (run : Run allowed start log s) (hv : v ∈ log)
    (found : v.after.users.get? u = some row) (closed : row.isLive = false) :
    s.users.get? u = some row :=
  run.persists (P := (·.users.get? u = some row)) hv found fun _ c found =>
    c.after_keeps (P := (·.users.get? u = some row)) found fun _ hw => hw.closed_row found closed

/-- Whatever is called, and in whatever order: what has been deleted never comes back. -/
theorem Run.tombstones (run : Run allowed .fresh log s) : Tombstones log s := by
  constructor
  · intro v hv b buries
    exact hidesBook_of_buried (run.isBuried hv buries.after.1)
  · intro v hv u closes
    obtain ⟨row, found, hlive⟩ := closes.after.1
    exact ⟨row, found, hidesUser_of_closed (run.closed_row hv found hlive) hlive run.emailsDistinct⟩
  · intro v hv deletes
    obtain ⟨b, buries⟩ | ⟨u, closes⟩ := deletes
    · exact buries.after.2
    · exact closes.after.2
  · intro t ht x row found
    obtain ⟨row', found', hkeeps⟩ := run.kept ht x row found
    obtain ⟨e, hid, hterms, hreadable⟩ := readable_of_dated (fun _ => run.dated) found'
    exact ⟨e, hid, hterms.trans hkeeps.terms, hreadable⟩

/-! The first user closes the account; the book is released and handed to the second user all the
same. -/

def haunting : List Command := closing ++ [.port (.release 1), .port (.transfer 1 2)]

def deletion : Event := ⟨(follow .fresh (opening.take 4)).2, .service id (.deleteUser 1 1)⟩

theorem Run.tombstones_haunting :
    HidesBook (follow .fresh haunting).2 1 ∧
      (∃ row, HidesUser (follow .fresh haunting).2 1 row) ∧
        ((follow .fresh haunting).1.drop 5).map Event.answer = [.ok .done, .ok .done] := by
  let anything : List Store → Command → Prop := fun _ _ => True
  have hallowed : ∀ stores, ∀ c ∈ haunting, anything stores c := fun _ _ _ => trivial
  have run : Run anything .fresh (follow .fresh haunting).1 (follow .fresh haunting).2 :=
    Run.of_follow .start hallowed
  have hmem : deletion ∈ (follow .fresh haunting).1 := by
    simp [haunting, closing, opening, deletion, follow]
  have closes : deletion.Closes 1 := ⟨by decide +kernel, rfl⟩
  have howner : (deletion.store.books.get? 1).map (·.owner) = some 1 := by decide +kernel
  obtain ⟨row, found, hrow⟩ := Option.map_eq_some_iff.mp howner
  have buries : deletion.Buries 1 := .inr ⟨row, found, hrow ▸ closes⟩
  have htombstones := run.tombstones
  obtain ⟨row', -, hides⟩ := htombstones.users deletion hmem 1 closes
  exact ⟨htombstones.books deletion hmem 1 buries, ⟨row', hides⟩, by decide +kernel⟩

end Run

end Market

end BookExchange
