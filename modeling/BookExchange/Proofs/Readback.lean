import BookExchange.Proofs.Contention
import BookExchange.Proofs.Filing
import BookExchange.Proofs.Interleaving

/-! A call that writes one thing answers with the thing. The answer is put together from the request
and not read from the store, and yet it is what can be read of the thing from then on; and a new thing
has the number that follows on those of all that were created before it. -/
namespace BookExchange
open Text Call

/-- The kinds of things that are numbered, each on its own. -/
inductive Item where
  | user
  | book
  | genre
  | exchange
  | review
deriving DecidableEq, Repr

theorem Table.filter_entries {α : Type} {t : Table α} {id : Int} {row : α}
    (found : t.get? id = some row) : t.entries.filter (·.1 == id) = [(id, row)] := by
  have hirrefl : Std.Irrefl fun a b : Int × α => a.1 < b.1 := ⟨fun a => Int.lt_irrefl a.1⟩
  have hantisymm : Std.Antisymm fun a b : Int × α => a.1 < b.1 :=
    ⟨fun a b hab hba => absurd hba (Int.lt_asymm hab)⟩
  refine (t.pairwise_entries.filter _).eq_of_mem_iff (List.pairwise_singleton _ _) fun e => ?_
  rw [List.mem_filter, beq_iff_eq, List.mem_singleton]
  constructor
  · intro h
    obtain ⟨hmem, hid⟩ := h
    exact Table.eq_of_mem_entries hmem (Table.mem_entries.mpr found) hid
  · intro h
    subst h
    exact ⟨Table.mem_entries.mpr found, rfl⟩

namespace Genre
variable {a b : Genre}

theorem Before.asymm (h : a.Before b) : ¬ b.Before a := by
  intro h'
  rw [Before, encodeUtf8_lt_iff] at h h'
  obtain h | ⟨hname, hid⟩ := h
  · obtain h' | ⟨hname', -⟩ := h'
    · exact lt_asymm h h'
    · exact h.ne hname'.symm
  · obtain h' | ⟨-, hid'⟩ := h'
    · exact h'.ne hname.symm
    · exact lt_asymm hid hid'

/-- Genres that stand in order are the same list when they are the same genres. -/
theorem eq_of_mem_iff {gs gs' : List Genre} (h : gs.Pairwise Before) (h' : gs'.Pairwise Before)
    (same : ∀ g, g ∈ gs ↔ g ∈ gs') : gs = gs' := by
  have hirrefl : Std.Irrefl Before := ⟨fun a ha => ha.asymm ha⟩
  have hantisymm : Std.Antisymm Before := ⟨fun a b hab hba => absurd hba hab.asymm⟩
  exact h.eq_of_mem_iff h' same

end Genre

namespace Store
variable {s t : Store} {r : Review}

/-- The number that the next new thing of a kind gets. -/
def nextId (s : Store) : Item → Int
  | .user => s.users.nextId
  | .book => s.books.nextId
  | .genre => s.genres.nextId
  | .exchange => s.exchanges.nextId
  | .review => s.reviews.nextId

/-! What is written can be read. -/

theorem user?_insertUser (r : User.Registration) :
    ({ s with users := s.users.insert (r.row s.clock) }.tick).user? s.users.nextId =
      some ((r.row s.clock).view s.users.nextId) :=
  user?_eq_some.mpr ⟨r.row s.clock, by simp [Table.get?_insert], rfl, rfl⟩

theorem genre?_insertGenre (name : String) :
    ({ s with genres := s.genres.insert ⟨name, s.clock⟩ }.tick).genre? s.genres.nextId =
      some ⟨s.genres.nextId, name, s.clock⟩ :=
  genre?_eq_some.mpr ⟨⟨name, s.clock⟩, by simp [Table.get?_insert], rfl⟩

/-- A new book is filed under its genres and no others, so that it is read with them. -/
theorem book?_insertBook {e : Book.Entry} {k : Book} (filed : s.Filed)
    (ascending : e.genres.Pairwise (· < ·)) (h : outcome (insertBook e) s = (.ok k, t)) :
    k.id = s.books.nextId ∧ t.book? k.id = .ok (some k) := by
  obtain ⟨-, gs, hgs, rfl, rfl⟩ := insertBook_ok h
  refine ⟨rfl, ?_⟩
  let t : Store := { s with
    books := s.books.insert (e.row s.clock)
    links := s.links ++ e.genres.map (s.books.nextId, ·) }.tick
  have hlive : t.liveBook? s.books.nextId = some (e.row s.clock) :=
    liveBook?_eq_some.mpr ⟨by simp [t, Table.get?_insert], rfl⟩
  have hgenres : t.genresOf s.books.nextId = gs.mergeSort Genre.before := by
    refine Genre.eq_of_mem_iff (pairwise_genresOf t _)
      (Genre.pairwise_sorted (List.pairwise_map.mp ?_)) fun g => ?_
    · rw [(genres_of_mapM hgs).1]
      exact ascending.imp Int.ne_of_lt
    · have hnew : (s.books.nextId, g.id) ∉ s.links := by
        intro hlink
        simpa [Table.get?_nextId] using filed _ hlink
      have hsame : t.genre? g.id = s.genre? g.id := rfl
      rw [List.mem_mergeSort, mem_of_mapM_genre? hgs, mem_genresOf, hsame]
      simp [t, hnew, and_comm]
  show t.book? s.books.nextId = _
  rw [book?_of_some hlive, ← hgenres]
  rfl

theorem exchange?_insertExchange {p : Exchange.Proposal} {e : Exchange}
    (unlocked : s.locked = false) (h : outcome (insertExchange p) s = (.ok e, t)) :
    e.id = s.exchanges.nextId ∧ t.exchange? e.id = .ok (some e) := by
  have hw := Market.Port.writes_insertExchange h
  have he := (insertExchange_of_writes unlocked hw).symm.trans h
  cases he
  cases hw
  exact ⟨rfl, exchange?_eq_some.mpr
    ⟨p.row (s.clock + 2), .pending, by simp [Table.get?_insert], rfl, rfl⟩⟩

/-- A review is found once among those that it counts with. -/
theorem filter_reviewsWhere {row : ReviewRow} {id : ReviewId} {p : ReviewRow → Bool}
    (found : s.reviews.get? id = some row) (hp : p row) :
    (s.reviewsWhere p).filter (·.id == id) = [row.view id] := by
  have hview : ((·.id == id) ∘ fun e : ReviewId × ReviewRow => e.2.view e.1) = (·.1 == id) := rfl
  have hswap : (s.reviews.entries.filter (p ·.2)).filter (·.1 == id) =
      (s.reviews.entries.filter (·.1 == id)).filter (p ·.2) := by
    simp only [List.filter_filter, Bool.and_comm]
  rw [reviewsWhere, List.filter_reverse, List.filter_map, hview, hswap, Table.filter_entries found]
  simp [hp]

end Store

namespace Market
variable {summarize summarize' : String → String} {s t : Store} {op : Operation} {p : Port}
  {c : Command} {a : Answer} {log : List Event}

/-- The kind and the number of the one thing that an answer is about. -/
def Answer.item? : Answer → Option (Item × Int)
  | .user u => some (.user, u.id)
  | .book k => some (.book, k.id)
  | .genre g => some (.genre, g.id)
  | .exchange e => some (.exchange, e.id)
  | .review r => some (.review, r.id)
  | _ => none

/-- The thing that an answer is about is what the services show of it. A review is shown among those
of its user and among those of its book, each time in one entry. -/
def Answer.ReadFrom (summarize : String → String) (s : Store) : Answer → Prop
  | .user u => (Command.service summarize (.getUser u.id)).answer s = .ok (.user u)
  | .book k => (Command.service summarize (.getBook k.id)).answer s = .ok (.book k)
  | .genre g => (Command.service summarize (.getGenre g.id)).answer s = .ok (.genre g)
  | .exchange e => (Command.service summarize (.getExchange e.id)).answer s = .ok (.exchange e)
  | .review r => ∃ ofUser ofBook,
      (Command.service summarize (.reviewsOfUser r.targetUser)).answer s = .ok (.reviews ofUser) ∧
      (Command.service summarize (.reviewsOfBook r.targetBook)).answer s = .ok (.reviews ofBook) ∧
      ofUser.filter (·.id == r.id) = [r] ∧ ofBook.filter (·.id == r.id) = [r]
  | _ => True

/-- What the operation creates. -/
def Operation.creates? : Operation → Option Item
  | .createUser _ => some .user
  | .createBook _ _ => some .book
  | .createGenre _ => some .genre
  | .createExchange _ _ => some .exchange
  | .createReview _ _ => some .review
  | _ => none

/-- What the operation changes and answers with. -/
def Operation.changes? : Operation → Option (Item × Int)
  | .updateUser id _ _ => some (.user, id)
  | .updateBook id _ _ => some (.book, id)
  | _ => none

/-- What the operation, if it succeeds on the store, is to answer with. -/
def Operation.subject? (s : Store) (op : Operation) : Option (Item × Int) :=
  match op.creates? with
  | some i => some (i, s.nextId i)
  | none => op.changes?

def Port.creates? : Port → Option Item
  | .insertUser _ => some .user
  | .insertBook _ => some .book
  | .insertGenre _ => some .genre
  | .insertExchange _ => some .exchange
  | .insertReview _ => some .review
  | _ => none

def Command.creates? : Command → Option Item
  | .service _ op => op.creates?
  | .port p => p.creates?

/-- The call has created something of the kind. -/
def Event.creates (v : Event) (i : Item) : Bool := v.command.creates? == some i && v.answer.isOk

/-- How many things of the kind have been created. -/
def created (i : Item) (log : List Event) : Nat := log.countP (·.creates i)

/-! The numbers. -/

theorem Port.Writes.nextId (h : p.Writes s t) (i : Item) :
    t.nextId i = s.nextId i + if p.creates? = some i then 1 else 0 := by
  cases h <;> cases i <;> simp [Store.nextId, Port.creates?, Store.setBook, Store.setExchange]

theorem Command.Calls.creates?_eq (h : c.Calls s p) : c.creates? = p.creates? := by
  cases h with
  | port => rfl
  | service reached => cases reached <;> rfl

theorem Command.creates?_of_isQuery (query : c.isQuery) : c.creates? = none := by
  cases c with
  | port p => cases query
  | service summarize op =>
    cases op with
    | createUser | createBook | createGenre | createExchange | createReview => cases query
    | _ => rfl

/-- The next number counts what has been created, whatever was refused or deleted in between. -/
theorem Run.nextId_eq {allowed : List Store → Command → Prop} (run : Run allowed .fresh log s)
    (i : Item) : s.nextId i = created i log + 1 := by
  induction run with
  | start => cases i <;> rfl
  | @step log s c run ok ih =>
    rw [created, List.countP_append, List.countP_singleton, Int.natCast_add, Int.add_right_comm,
      ← created, ← ih]
    cases c.cases s with
    | fails failed unchanged =>
      rw [unchanged]
      simp [Event.creates, Event.answer, failed, Except.isOk, Except.toBool]
    | looks query unchanged =>
      rw [unchanged]
      simp [Event.creates, Command.creates?_of_isQuery query]
    | @writes p a calls answered =>
      have hanswer : c.answer s = .ok a :=
        congrArg Prod.fst ((Command.perform_of_calls calls).trans answered)
      rw [(Port.writes_of_ok answered).nextId i]
      simp [Event.creates, Event.answer, hanswer, calls.creates?_eq, Except.isOk, Except.toBool]
    | describes calls failed written unreadable =>
      rw [written.nextId i]
      simp [Event.creates, Event.answer, failed, Except.isOk, Except.toBool, Port.creates?]

/-! What is answered can be read. -/

theorem readFrom_user {u : User} (h : s.user? u.id = some u) :
    (Answer.user u).ReadFrom summarize s := by
  refine (Command.outcome_perform (t := s).mp ?_).1
  simp [perform, getUser, outcome_bind, h]

theorem readFrom_book {k : Book} (h : s.book? k.id = .ok (some k)) :
    (Answer.book k).ReadFrom summarize s := by
  refine (Command.outcome_perform (t := s).mp ?_).1
  simp [perform, getBook, outcome_bind, h]

theorem readFrom_genre {g : Genre} (h : s.genre? g.id = some g) :
    (Answer.genre g).ReadFrom summarize s := by
  obtain ⟨row, found, -⟩ := Store.genre?_eq_some.mp h
  have hpos := Table.pos_of_get? found
  refine (Command.outcome_perform (t := s).mp ?_).1
  simp [perform, getGenre, outcome_bind, h, Int.not_le.mpr hpos]

theorem readFrom_exchange {e : Exchange} (h : s.exchange? e.id = .ok (some e)) :
    (Answer.exchange e).ReadFrom summarize s := by
  obtain ⟨row, -, found, -⟩ := Store.exchange?_eq_some.mp h
  have hpos := Table.pos_of_get? found
  refine (Command.outcome_perform (t := s).mp ?_).1
  simp [perform, getExchange, outcome_bind, h, Int.not_le.mpr hpos]

theorem readFrom_review {row : ReviewRow} {id : ReviewId} (found : s.reviews.get? id = some row) :
    (Answer.review (row.view id)).ReadFrom summarize s :=
  ⟨s.reviewsOfUser row.targetUser, s.reviewsOfBook row.targetBook, rfl, rfl,
    Store.filter_reviewsWhere found (by simp), Store.filter_reviewsWhere found (by simp)⟩

/-- A description is answered with the book as it is read afterwards. -/
theorem book?_describe {id : BookId} {description : String} {k : Book}
    (h : outcome (Store.describe id description) s = (.ok k, t)) :
    k.id = id ∧ t.book? k.id = .ok (some k) := by
  obtain ⟨f, hf⟩ | ⟨r, u, hr, -, hread⟩ := Port.describe_cases id description s
  · cases hf.symm.trans h
  · cases hr.symm.trans h
    have found := (hread k).mp rfl
    have hid : k.id = id := Store.id_of_book? found
    exact ⟨hid, hid.symm ▸ found⟩

/-- Behind its checks an operation answers with what it writes. -/
theorem told_of_reaches (unlocked : s.locked = false) (filed : s.Filed)
    (reached : op.Reaches summarize s p) (h : outcome p.perform s = (.ok a, t)) :
    a.item? = op.subject? s ∧ ∀ summarize, a.ReadFrom summarize t := by
  cases reached with
  | @createUser r =>
    obtain ⟨u, hu, rfl⟩ := map_eq_ok.mp h
    rw [Store.outcome_insertUser unlocked] at hu
    split at hu
    · cases hu
    · cases hu
      exact ⟨rfl, fun _ => readFrom_user (Store.user?_insertUser r)⟩
  | @updateUser id change v valid found =>
    obtain ⟨u, hu, rfl⟩ := map_eq_ok.mp h
    obtain ⟨rfl, hw⟩ := Store.saveUser_ok hu
    have hid : (change.apply v).id = id := id_of_user? (v := v) found
    have hread := Store.user?_saveUser hw (hid.symm ▸ found) (change.apply_sameAccount ⟨rfl, rfl⟩)
    exact ⟨congrArg (fun n => some (Item.user, n)) hid, fun _ => readFrom_user hread⟩
  | createBook valid =>
    obtain ⟨k, hk, rfl⟩ := map_eq_ok.mp h
    obtain ⟨hid, hread⟩ := Store.book?_insertBook filed (pairwise_entry _ _ _) hk
    exact ⟨congrArg (fun n => some (Item.book, n)) hid, fun _ => readFrom_book hread⟩
  | updateBook found =>
    obtain ⟨k, hk, rfl⟩ := map_eq_ok.mp h
    obtain ⟨hid, hread⟩ := book?_describe hk
    exact ⟨congrArg (fun n => some (Item.book, n)) hid, fun _ => readFrom_book hread⟩
  | createGenre validated =>
    obtain ⟨g, hg, rfl⟩ := map_eq_ok.mp h
    rw [Store.outcome_insertGenre unlocked] at hg
    split at hg
    · cases hg
    · cases hg
      exact ⟨rfl, fun _ => readFrom_genre (Store.genre?_insertGenre _)⟩
  | createExchange =>
    obtain ⟨e, he, rfl⟩ := map_eq_ok.mp h
    obtain ⟨hid, hread⟩ := Store.exchange?_insertExchange unlocked he
    exact ⟨congrArg (fun n => some (Item.exchange, n)) hid, fun _ => readFrom_exchange hread⟩
  | createReview valid =>
    obtain ⟨v, hv, rfl⟩ := map_eq_ok.mp h
    obtain ⟨rfl, rfl⟩ := Store.insertReview_ok hv
    exact ⟨rfl, fun _ => readFrom_review (by simp [Table.get?_insert])⟩
  | deleteUser | deleteBook | deleteGenre | acceptExchange | completeExchange | cancelExchange
  | deleteReview =>
    obtain ⟨-, rfl⟩ := then_pure_eq_ok.mp h
    exact ⟨rfl, fun _ => trivial⟩

theorem id_of_getBook {id : BookId} {k : Book} (h : outcome (getBook id) s = (.ok k, t)) :
    k.id = id := by
  obtain ⟨f, hf⟩ | ⟨k', found, hk⟩ := getBook_cases id s
  · cases hf.symm.trans h
  · cases hk.symm.trans h
    exact Store.id_of_book? found

theorem genre?_of_getGenre {id : GenreId} {g : Genre} (h : outcome (getGenre id) s = (.ok g, t)) :
    s.genre? g.id = some g := by
  by_cases hid : id ≤ 0
  · simp [getGenre, hid] at h
  · cases hg : s.genre? id with
    | none => simp [getGenre, outcome_bind, hid, hg] at h
    | some g' =>
      simp only [getGenre, outcome_bind, hid, ↓reduceIte, outcome_pure, outcome_read, hg,
        Prod.mk.injEq, Except.ok.injEq] at h
      obtain ⟨rfl, -⟩ := h
      obtain ⟨row, -, hview⟩ := Store.genre?_eq_some.mp hg
      have hsame : g'.id = id := by rw [hview]; rfl
      rwa [hsame]

/-- What is only read can be read again; a book that was to be changed in nothing is only read. -/
theorem told_of_isQuery (query : op.isQuery) (h : outcome (perform summarize op) s = (.ok a, t)) :
    (∀ x, op.subject? s = some x → a.item? = some x) ∧ ∀ summarize, a.ReadFrom summarize s := by
  cases op with
  | getUser id =>
    obtain ⟨u, hu, rfl⟩ := map_eq_ok.mp h
    obtain ⟨f, hf⟩ | ⟨v, found, hv⟩ := getUser_cases id s
    · cases hf.symm.trans hu
    · cases hv.symm.trans hu
      have hid : u.id = id := id_of_user? found
      exact ⟨fun x hx => (by cases hx), fun _ => readFrom_user (hid.symm ▸ found)⟩
  | getBook id =>
    obtain ⟨k, hk, rfl⟩ := map_eq_ok.mp h
    exact ⟨fun x hx => (by cases hx), fun _ => readFrom_book (book?_of_getBook hk)⟩
  | updateBook id actor change =>
    obtain ⟨_ | description⟩ := change
    · obtain ⟨k, hk, rfl⟩ := map_eq_ok.mp h
      refine ⟨fun x hx => ?_, fun _ => readFrom_book (book?_of_updateBook hk)⟩
      cases hx
      exact congrArg (fun n => some (Item.book, n)) (id_of_getBook (getBook_of_updateBook hk))
    · cases query
  | getGenre id =>
    obtain ⟨g, hg, rfl⟩ := map_eq_ok.mp h
    exact ⟨fun x hx => (by cases hx), fun _ => readFrom_genre (genre?_of_getGenre hg)⟩
  | getExchange id =>
    obtain ⟨e, he, rfl⟩ := map_eq_ok.mp h
    obtain ⟨f, hf⟩ | ⟨e', -, found, he'⟩ := getExchange_cases id s
    · cases hf.symm.trans he
    · cases he'.symm.trans he
      have hid : e.id = id := Store.exchange?_id found
      exact ⟨fun x hx => (by cases hx), fun _ => readFrom_exchange (hid.symm ▸ found)⟩
  | listUsers q | profile id | searchBooks q | booksOf owner status | availableBooks city | listGenres
  | listExchanges | exchangesOf user status | reviewsOfUser user | reviewsOfBook book
  | ratingOf user =>
    obtain ⟨x, -, rfl⟩ := map_eq_ok.mp h
    exact ⟨fun x hx => (by cases hx), fun _ => trivial⟩
  | _ => cases query

/-- A call that succeeds answers with what it is about, as it can be read from then on. -/
theorem told_of_answer (unlocked : s.locked = false) (filed : s.Filed)
    (answered : (Command.service summarize op).answer s = .ok a) :
    (∀ x, op.subject? s = some x → a.item? = some x) ∧
      ∀ summarize', a.ReadFrom summarize' ((Command.service summarize op).after s) := by
  cases (Command.service summarize op).cases s with
  | fails failed unchanged => cases failed.symm.trans answered
  | looks query unchanged =>
    rw [unchanged]
    exact told_of_isQuery query (Command.outcome_perform.mpr ⟨answered, rfl⟩)
  | writes calls written =>
    cases calls with
    | service reached =>
      have hanswer := congrArg Prod.fst ((perform_of_reaches reached).trans written)
      cases answered.symm.trans hanswer
      obtain ⟨hitem, hread⟩ := told_of_reaches unlocked filed reached written
      exact ⟨fun x hx => hitem.trans hx, hread⟩
  | describes calls failed written unreadable => cases failed.symm.trans answered

/-- Calls tell the truth: a new thing has the number after those of all that were created before it,
whatever was refused and whatever was deleted; a change is answered with the thing that was to be
changed; and each thing answered is what is read of it right afterwards. -/
structure Truthful (log : List Event) (s : Store) : Prop where
  created (summarize : String → String) (op : Operation) (a : Answer)
    (answered : (Command.service summarize op).answer s = .ok a) (i : Item)
    (creates : op.creates? = some i) : a.item? = some (i, (created i log : Int) + 1)
  changed (summarize : String → String) (op : Operation) (a : Answer)
    (answered : (Command.service summarize op).answer s = .ok a) (i : Item) (id : Int)
    (changes : op.changes? = some (i, id)) : a.item? = some (i, id)
  shown (summarize : String → String) (op : Operation) (a : Answer)
    (answered : (Command.service summarize op).answer s = .ok a) (summarize' : String → String) :
    a.ReadFrom summarize' ((Command.service summarize op).after s)

/-- Whatever is called, and in whatever order: what a service answers about a thing is what is stored. -/
theorem Run.answers_truthful {allowed : List Store → Command → Prop}
    (run : Run allowed .fresh log s) : Truthful log s := by
  constructor
  · intro summarize op a answered i creates
    have hsubject : op.subject? s = some (i, s.nextId i) := by simp [Operation.subject?, creates]
    rw [← run.nextId_eq i]
    exact (told_of_answer run.unlocked run.filed answered).1 _ hsubject
  · intro summarize op a answered i id changes
    have hnone : op.creates? = none := by
      cases op with
      | updateUser | updateBook => rfl
      | _ => cases changes
    have hsubject : op.subject? s = some (i, id) := by simp [Operation.subject?, hnone, changes]
    exact (told_of_answer run.unlocked run.filed answered).1 _ hsubject
  · intro summarize op a answered
    exact (told_of_answer run.unlocked run.filed answered).2

/-- Two genres are there after three were created and one deleted; the next one is the fourth. -/
theorem Run.answers_truthful_refiling :
    Truthful (follow .fresh refiling).1 (follow .fresh refiling).2 ∧
      created .genre (follow .fresh refiling).1 = 3 ∧
      (Command.service id (.createGenre "Log")).answer (follow .fresh refiling).2 =
        .ok (.genre ⟨4, "Log", 6⟩) := by
  have run := run_services .fresh refiling (by simp [refiling, Command.IsService])
  refine ⟨run.answers_truthful, ?_, ?_⟩
  · rw [follow_refiling]
    decide +kernel
  · rw [follow_refiling]
    decide +kernel

end Market

end BookExchange
