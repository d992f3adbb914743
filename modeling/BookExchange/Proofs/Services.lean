import BookExchange.Proofs.Ports

/-! A service looks before it writes: `Operation.Reaches` says which port it comes down to and what it
has seen by then. Where it reaches none, it answers from what it read and the store stays as it is. -/
namespace BookExchange.Market
open Call
variable {summarize : String → String} {s t : Store} {op : Operation} {p : Port}

/-- The operation, called on `s`, passes its checks and comes down to the port. -/
inductive Operation.Reaches (summarize : String → String) (s : Store) : Operation → Port → Prop where
  | createUser {r : User.Registration} (valid : r.validate = .ok ()) :
      Reaches summarize s (.createUser r) (.insertUser r)
  | updateUser {id : UserId} {c : User.Change} {u : User} (valid : c.validate = .ok ())
      (found : s.user? id = some u) :
      Reaches summarize s (.updateUser id id c) (.saveUser (c.apply u))
  | deleteUser {id : UserId} {u : User} {es : List Exchange} (found : s.user? id = some u)
      (read : s.exchangesOf id none = .ok es) (idle : es.any (·.status.isActive) = false) :
      Reaches summarize s (.deleteUser id id) (.removeUser id)
  | createBook {owner : UserId} {o : Book.Offer} (valid : o.validate = .ok ()) :
      Reaches summarize s (.createBook owner o) (.insertBook (o.entry owner (summaryOf summarize o)))
  | updateBook {id : BookId} {b : Book} {description : String}
      (found : s.book? id = .ok (some b)) :
      Reaches summarize s (.updateBook id b.owner ⟨some description⟩) (.describe id description)
  | deleteBook {id : BookId} {b : Book} (found : s.book? id = .ok (some b))
      (free : b.status ≠ .reserved) :
      Reaches summarize s (.deleteBook id b.owner) (.removeBook id)
  | createGenre {name valid : String} (validated : Genre.validName name = .ok valid) :
      Reaches summarize s (.createGenre name) (.insertGenre valid)
  | deleteGenre {id : GenreId} (positive : 0 < id) :
      Reaches summarize s (.deleteGenre id) (.removeGenre id)
  | createExchange {initiator : UserId} {r : Exchange.Request} {mine theirs : Book}
      (parties : initiator ≠ r.recipient)
      (mineFound : s.book? r.initiatorBook = .ok (some mine))
      (theirsFound : s.book? r.recipientBook = .ok (some theirs))
      (mineOwned : mine.owner = initiator) (theirsOwned : theirs.owner = r.recipient)
      (mineFree : mine.status = .available) (theirsFree : theirs.status = .available) :
      Reaches summarize s (.createExchange initiator r)
        (.insertExchange ⟨initiator, r.recipient, mine.id, theirs.id⟩)
  | acceptExchange {id : ExchangeId} {actor : UserId} {e e' : Exchange} (positive : 0 < id)
      (found : s.exchange? id = .ok (some e)) (accepted : e.accept actor s.clock = .ok e') :
      Reaches summarize s (.acceptExchange id actor) (.acceptExchange e')
  | completeExchange {id : ExchangeId} {actor : UserId} {e e' : Exchange} (positive : 0 < id)
      (found : s.exchange? id = .ok (some e)) (completed : e.complete actor s.clock = .ok e') :
      Reaches summarize s (.completeExchange id actor) (.completeExchange e')
  | cancelExchange {id : ExchangeId} {actor : UserId} {e e' : Exchange} (positive : 0 < id)
      (found : s.exchange? id = .ok (some e)) (cancelled : e.cancel actor s.clock = .ok e') :
      Reaches summarize s (.cancelExchange id actor) (.cancelExchange e')
  | createReview {author : UserId} {r : Review.Submission} {text : String}
      (valid : r.validText author = .ok text) :
      Reaches summarize s (.createReview author r)
        (.insertReview ⟨author, r.targetUser, r.targetBook, text, r.rating⟩)
  | deleteReview {id : ReviewId} {r : Review} (found : s.review? id = some r) :
      Reaches summarize s (.deleteReview id r.author) (.removeReview id)

/-- Behind its checks a service is its port. -/
theorem perform_of_reaches (h : op.Reaches summarize s p) :
    outcome (perform summarize op) s = outcome p.perform s := by
  cases h with
  | createUser valid => simp [perform, Port.perform, createUser, outcome_map, outcome_bind, valid]
  | updateUser valid found =>
    simp [perform, Port.perform, updateUser, getUser, outcome_map, outcome_bind, valid, found]
  | @deleteUser id u es found read idle =>
    have hidle : ¬ ∃ e ∈ es, e.status.isActive = true := by simpa using idle
    simp [perform, Port.perform, deleteUser, getUser, outcome_bind, found, read, if_neg hidle]
  | createBook valid =>
    simp [perform, Port.perform, createBook, outcome_map, outcome_bind, valid]
  | updateBook found =>
    simp [perform, Port.perform, updateBook, getBook, outcome_map, outcome_bind, found]
  | deleteBook found free =>
    simp [perform, Port.perform, deleteBook, getBook, outcome_map, outcome_bind, found, free]
  | createGenre validated =>
    simp [perform, Port.perform, createGenre, outcome_map, outcome_bind, validated]
  | deleteGenre positive =>
    simp [perform, Port.perform, deleteGenre, outcome_map, Int.not_le.mpr positive]
  | createExchange parties mineFound theirsFound mineOwned theirsOwned mineFree theirsFree =>
    simp [perform, Port.perform, createExchange, requireBook, outcome_map, outcome_bind, parties,
      mineFound, theirsFound, mineOwned, theirsOwned, mineFree, theirsFree]
  | acceptExchange positive found accepted =>
    simp [perform, Port.perform, acceptExchange, getExchange, now, outcome_map, outcome_bind,
      Int.not_le.mpr positive, found, accepted]
  | completeExchange positive found completed =>
    simp [perform, Port.perform, completeExchange, getExchange, now, outcome_map, outcome_bind,
      Int.not_le.mpr positive, found, completed]
  | cancelExchange positive found cancelled =>
    simp [perform, Port.perform, cancelExchange, getExchange, now, outcome_map, outcome_bind,
      Int.not_le.mpr positive, found, cancelled]
  | createReview valid =>
    simp [perform, Port.perform, createReview, outcome_map, outcome_bind, valid]
  | deleteReview found =>
    simp [perform, Port.perform, deleteReview, outcome_map, outcome_bind, found]

/-! Looking one thing up. -/

theorem getUser_cases (id : UserId) (s : Store) :
    (∃ f, outcome (getUser id) s = (.error f, s)) ∨
      ∃ u, s.user? id = some u ∧ outcome (getUser id) s = (.ok u, s) := by
  cases hu : s.user? id <;> simp [getUser, outcome_bind, hu]

theorem id_of_user? {id : UserId} {v : User} (h : s.user? id = some v) : v.id = id := by
  obtain ⟨row, -, rfl⟩ := Option.map_eq_some_iff.mp h
  rfl

theorem getBook_cases (id : BookId) (s : Store) :
    (∃ f, outcome (getBook id) s = (.error f, s)) ∨
      ∃ b, s.book? id = .ok (some b) ∧ outcome (getBook id) s = (.ok b, s) := by
  cases hb : s.book? id with
  | error f => simp [getBook, outcome_bind, hb]
  | ok found => cases found <;> simp [getBook, outcome_bind, hb]

theorem requireBook_eq (id : BookId) : requireBook id = getBook id := rfl

theorem getExchange_cases (id : ExchangeId) (s : Store) :
    (∃ f, outcome (getExchange id) s = (.error f, s)) ∨
      ∃ e, 0 < id ∧ s.exchange? id = .ok (some e) ∧ outcome (getExchange id) s = (.ok e, s) := by
  by_cases h : id ≤ 0
  · simp [getExchange, h]
  · cases he : s.exchange? id with
    | error f => simp [getExchange, h, outcome_bind, he]
    | ok found => cases found <;> simp [getExchange, h, outcome_bind, he, Int.not_le.mp h]

/-- Nothing that only reads tells the stores apart. -/
def Alike (s t : Store) : Prop := ∀ l : Look, l.see s = l.see t

section Alike
variable (alike : Alike s t)
include alike

theorem same_getUser (id : UserId) : Same s t (getUser id) := by
  refine (same_read (alike (.user id))).bind fun found => ?_
  cases found with
  | none => exact same_throw _
  | some u => exact same_pure u

theorem same_getBook (id : BookId) : Same s t (getBook id) := by
  refine (same_read (alike (.book id))).bind fun found => ?_
  cases found with
  | none => exact same_throw _
  | some b => exact same_pure b

theorem same_getGenre (id : GenreId) : Same s t (getGenre id) := by
  unfold getGenre
  split
  · exact same_throw _
  · refine (same_read (alike (.genre id))).bind fun found => ?_
    cases found with
    | none => exact same_throw _
    | some g => exact same_pure g

theorem same_getExchange (id : ExchangeId) : Same s t (getExchange id) := by
  unfold getExchange
  split
  · exact same_throw _
  · refine (same_read (alike (.exchange id))).bind fun found => ?_
    cases found with
    | none => exact same_throw _
    | some e => exact same_pure e

theorem same_profile (id : UserId) : Same s t (profile id) :=
  (same_getUser alike id).bind fun _ => (same_read (alike (.booksOf id none))).bind fun _ =>
    (same_read (alike (.completedOf id))).bind fun _ =>
      (same_read (alike (.ratingOf id))).bind fun _ => same_pure _

theorem same_updateBook (id : BookId) (actor : UserId) : Same s t (updateBook id actor ⟨none⟩) := by
  refine (same_getBook alike id).bind fun b => ?_
  by_cases howner : b.owner = actor
  · simpa [howner] using same_pure b
  · simpa [howner] using same_throw Failure.forbidden

theorem same_searchBooks (q : Catalogue.Query) : Same s t (searchBooks q) :=
  (same_lift _).bind fun search => (same_read (alike (.search search))).bind fun _ => same_pure _

theorem same_listUsers (q : Directory.Query) : Same s t (listUsers q) :=
  (same_read (alike (.usersAfter _ _))).bind fun _ => same_pure _

end Alike

theorem alike_withLock (s : Store) (held : Bool) : Alike s (s.withLock held) :=
  fun l => by cases l <;> rfl

theorem outcome_withLock {α : Type} {c : Call α} (same : ∀ t, Alike s t → Same s t c)
    {r : Except Failure α} (h : outcome c s = (r, s)) (held : Bool) :
    outcome c (s.withLock held) = (r, s.withLock held) :=
  (same _ (alike_withLock s held)).outcome_eq h

/-- The operation does not write. -/
def Operation.isQuery : Operation → Bool
  | .getUser _ | .listUsers _ | .profile _ | .getBook _ | .updateBook _ _ ⟨none⟩ | .searchBooks _
  | .booksOf _ _ | .availableBooks _ | .getGenre _ | .listGenres | .getExchange _ | .listExchanges
  | .exchangesOf _ _ | .reviewsOfUser _ | .reviewsOfBook _ | .ratingOf _ => true
  | _ => false

theorem same_of_isQuery (alike : Alike s t) (query : op.isQuery) :
    Same s t (perform summarize op) := by
  cases op with
  | getUser id => exact (same_getUser alike id).map _
  | listUsers q => exact (same_listUsers alike q).map _
  | profile id => exact (same_profile alike id).map _
  | getBook id => exact (same_getBook alike id).map _
  | updateBook id actor c =>
    obtain ⟨_ | description⟩ := c
    · exact (same_updateBook alike id actor).map _
    · cases query
  | searchBooks q => exact (same_searchBooks alike q).map _
  | booksOf owner status => exact (same_read (alike (.booksOf owner status))).map _
  | availableBooks city => exact (same_read (alike (.availableBooks city))).map _
  | getGenre id => exact (same_getGenre alike id).map _
  | listGenres => exact (same_read (alike .genres)).map _
  | getExchange id => exact (same_getExchange alike id).map _
  | listExchanges => exact (same_read (alike .exchanges)).map _
  | exchangesOf user status => exact (same_read (alike (.exchangesOf user status))).map _
  | reviewsOfUser user => exact (same_read (alike (.reviewsOfUser user))).map _
  | reviewsOfBook book => exact (same_read (alike (.reviewsOfBook book))).map _
  | ratingOf user => exact (same_read (alike (.ratingOf user))).map _
  | _ => cases query

/-- The operation fails by what it reads, whether the lock is held or not. -/
def Operation.Refused (summarize : String → String) (s : Store) (op : Operation) : Prop :=
  ∃ f, ∀ held, outcome (perform summarize op) (s.withLock held) = (.error f, s.withLock held)

/-- Before its first write statement a service has refused, or it only looks, or it comes down to a
port. -/
inductive Operation.Course (summarize : String → String) (s : Store) (op : Operation) : Prop where
  | refuses (refused : op.Refused summarize s)
  | looks (query : op.isQuery)
  | reaches {p : Port} (reached : op.Reaches summarize s p)

section Reads
variable (held : Bool)

@[simp] theorem withLock_clock : (s.withLock held).clock = s.clock := rfl

@[simp] theorem withLock_exchangesOf (user : UserId) (status : Option Exchange.Status) :
    (s.withLock held).exchangesOf user status = s.exchangesOf user status := rfl

@[simp] theorem withLock_review? (id : ReviewId) : (s.withLock held).review? id = s.review? id := rfl

end Reads

/-! The services, one by one. -/

theorem updateUser_course (id actor : UserId) (c : User.Change) (s : Store) :
    (Operation.updateUser id actor c).Course summarize s := by
  by_cases hactor : id = actor
  · subst hactor
    cases hv : c.validate with
    | error f => exact .refuses (by simp [Operation.Refused, perform, updateUser, outcome_bind, hv])
    | ok _ =>
      obtain ⟨f, h⟩ | ⟨u, hu, -⟩ := getUser_cases id s
      · have h := outcome_withLock (fun _ h => same_getUser h id) h
        exact .refuses (by simp [Operation.Refused, perform, updateUser, outcome_bind, hv, h])
      · exact .reaches (.updateUser hv hu)
  · exact .refuses (by simp [Operation.Refused, perform, updateUser, hactor])

theorem deleteUser_course (id actor : UserId) (s : Store) :
    (Operation.deleteUser id actor).Course summarize s := by
  by_cases hactor : id = actor
  · subst hactor
    obtain ⟨f, h⟩ | ⟨u, hu, h⟩ := getUser_cases id s
    · have h := outcome_withLock (fun _ h => same_getUser h id) h
      exact .refuses (by simp [Operation.Refused, perform, deleteUser, outcome_bind, h])
    · have h := outcome_withLock (fun _ h => same_getUser h id) h
      cases hes : s.exchangesOf id none with
      | error f =>
        exact .refuses (by simp [Operation.Refused, perform, deleteUser, outcome_bind, h, hes])
      | ok es =>
        cases hidle : es.any (·.status.isActive) with
        | true =>
          have hbusy : ∃ e ∈ es, e.status.isActive = true := by simpa using hidle
          exact .refuses (by
            simp [Operation.Refused, perform, deleteUser, outcome_bind, h, hes, if_pos hbusy])
        | false => exact .reaches (.deleteUser hu hes hidle)
  · exact .refuses (by simp [Operation.Refused, perform, deleteUser, hactor])

theorem updateBook_course (id : BookId) (actor : UserId) (c : Book.Change) (s : Store) :
    (Operation.updateBook id actor c).Course summarize s := by
  obtain ⟨_ | description⟩ := c
  · exact .looks rfl
  obtain ⟨f, h⟩ | ⟨b, hb, h⟩ := getBook_cases id s
  · have h := outcome_withLock (fun _ h => same_getBook h id) h
    exact .refuses (by simp [Operation.Refused, perform, updateBook, outcome_bind, h])
  · have h := outcome_withLock (fun _ h => same_getBook h id) h
    by_cases howner : b.owner = actor
    · subst howner
      exact .reaches (.updateBook hb)
    · exact .refuses (by simp [Operation.Refused, perform, updateBook, outcome_bind, h, howner])

theorem deleteBook_course (id : BookId) (actor : UserId) (s : Store) :
    (Operation.deleteBook id actor).Course summarize s := by
  obtain ⟨f, h⟩ | ⟨b, hb, h⟩ := getBook_cases id s
  · have h := outcome_withLock (fun _ h => same_getBook h id) h
    exact .refuses (by simp [Operation.Refused, perform, deleteBook, outcome_bind, h])
  · have h := outcome_withLock (fun _ h => same_getBook h id) h
    by_cases howner : b.owner = actor
    · subst howner
      by_cases hfree : b.status = .reserved
      · exact .refuses (by simp [Operation.Refused, perform, deleteBook, outcome_bind, h, hfree])
      · exact .reaches (.deleteBook hb hfree)
    · exact .refuses (by simp [Operation.Refused, perform, deleteBook, outcome_bind, h, howner])

theorem createExchange_course (initiator : UserId) (r : Exchange.Request) (s : Store) :
    (Operation.createExchange initiator r).Course summarize s := by
  by_cases parties : initiator = r.recipient
  · exact .refuses (by simp [Operation.Refused, perform, createExchange, parties])
  obtain ⟨f, h⟩ | ⟨mine, hm, mineFound⟩ := getBook_cases r.initiatorBook s
  · have h := outcome_withLock (fun _ h => same_getBook h _) h
    exact .refuses (by simp [Operation.Refused, perform, createExchange, requireBook_eq, outcome_bind,
      parties, h])
  have mineFound := outcome_withLock (fun _ h => same_getBook h _) mineFound
  obtain ⟨f, h⟩ | ⟨theirs, ht, theirsFound⟩ := getBook_cases r.recipientBook s
  · have h := outcome_withLock (fun _ h => same_getBook h _) h
    exact .refuses (by simp [Operation.Refused, perform, createExchange, requireBook_eq, outcome_bind,
      parties, mineFound, h])
  have theirsFound := outcome_withLock (fun _ h => same_getBook h _) theirsFound
  by_cases mineOwned : mine.owner = initiator
  · by_cases theirsOwned : theirs.owner = r.recipient
    · by_cases mineFree : mine.status = .available
      · by_cases theirsFree : theirs.status = .available
        · exact .reaches (.createExchange parties hm ht mineOwned theirsOwned mineFree theirsFree)
        · exact .refuses (by simp [Operation.Refused, perform, createExchange, requireBook_eq,
            outcome_bind, parties, mineFound, theirsFound, mineOwned, theirsOwned, mineFree, theirsFree])
      · exact .refuses (by simp [Operation.Refused, perform, createExchange, requireBook_eq,
          outcome_bind, parties, mineFound, theirsFound, mineOwned, theirsOwned, mineFree])
    · exact .refuses (by simp [Operation.Refused, perform, createExchange, requireBook_eq,
        outcome_bind, parties, mineFound, theirsFound, mineOwned, theirsOwned])
  · exact .refuses (by simp [Operation.Refused, perform, createExchange, requireBook_eq, outcome_bind,
      parties, mineFound, theirsFound, mineOwned])

theorem acceptExchange_course (id : ExchangeId) (actor : UserId) (s : Store) :
    (Operation.acceptExchange id actor).Course summarize s := by
  obtain ⟨f, h⟩ | ⟨e, positive, he, h⟩ := getExchange_cases id s
  · have h := outcome_withLock (fun _ h => same_getExchange h id) h
    exact .refuses (by simp [Operation.Refused, perform, acceptExchange, outcome_bind, h])
  · have h := outcome_withLock (fun _ h => same_getExchange h id) h
    cases ha : e.accept actor s.clock with
    | error f =>
      exact .refuses (by simp [Operation.Refused, perform, acceptExchange, now, outcome_bind, h, ha])
    | ok e' => exact .reaches (.acceptExchange positive he ha)

theorem completeExchange_course (id : ExchangeId) (actor : UserId) (s : Store) :
    (Operation.completeExchange id actor).Course summarize s := by
  obtain ⟨f, h⟩ | ⟨e, positive, he, h⟩ := getExchange_cases id s
  · have h := outcome_withLock (fun _ h => same_getExchange h id) h
    exact .refuses (by simp [Operation.Refused, perform, completeExchange, outcome_bind, h])
  · have h := outcome_withLock (fun _ h => same_getExchange h id) h
    cases ha : e.complete actor s.clock with
    | error f =>
      exact .refuses (by simp [Operation.Refused, perform, completeExchange, now, outcome_bind, h, ha])
    | ok e' => exact .reaches (.completeExchange positive he ha)

theorem cancelExchange_course (id : ExchangeId) (actor : UserId) (s : Store) :
    (Operation.cancelExchange id actor).Course summarize s := by
  obtain ⟨f, h⟩ | ⟨e, positive, he, h⟩ := getExchange_cases id s
  · have h := outcome_withLock (fun _ h => same_getExchange h id) h
    exact .refuses (by simp [Operation.Refused, perform, cancelExchange, outcome_bind, h])
  · have h := outcome_withLock (fun _ h => same_getExchange h id) h
    cases ha : e.cancel actor s.clock with
    | error f =>
      exact .refuses (by simp [Operation.Refused, perform, cancelExchange, now, outcome_bind, h, ha])
    | ok e' => exact .reaches (.cancelExchange positive he ha)

theorem deleteReview_course (id : ReviewId) (actor : UserId) (s : Store) :
    (Operation.deleteReview id actor).Course summarize s := by
  cases hr : s.review? id with
  | none => exact .refuses (by simp [Operation.Refused, perform, deleteReview, outcome_bind, hr])
  | some r =>
    by_cases hauthor : r.author = actor
    · subst hauthor
      exact .reaches (.deleteReview hr)
    · exact .refuses (by
        simp [Operation.Refused, perform, deleteReview, outcome_bind, hr, hauthor])

theorem perform_course (summarize : String → String) (op : Operation) (s : Store) :
    op.Course summarize s := by
  cases op with
  | createUser r =>
    cases hv : r.validate with
    | error f => exact .refuses (by simp [Operation.Refused, perform, createUser, outcome_bind, hv])
    | ok _ => exact .reaches (.createUser hv)
  | updateUser id actor c => exact updateUser_course id actor c s
  | deleteUser id actor => exact deleteUser_course id actor s
  | createBook owner o =>
    cases hv : o.validate with
    | error f => exact .refuses (by simp [Operation.Refused, perform, createBook, outcome_bind, hv])
    | ok _ => exact .reaches (.createBook hv)
  | updateBook id actor c => exact updateBook_course id actor c s
  | deleteBook id actor => exact deleteBook_course id actor s
  | createGenre name =>
    cases hv : Genre.validName name with
    | error f => exact .refuses (by simp [Operation.Refused, perform, createGenre, outcome_bind, hv])
    | ok valid => exact .reaches (.createGenre hv)
  | deleteGenre id =>
    by_cases hpos : 0 < id
    · exact .reaches (.deleteGenre hpos)
    · exact .refuses (by simp [Operation.Refused, perform, deleteGenre, Int.not_lt.mp hpos])
  | createExchange initiator r => exact createExchange_course initiator r s
  | acceptExchange id actor => exact acceptExchange_course id actor s
  | completeExchange id actor => exact completeExchange_course id actor s
  | cancelExchange id actor => exact cancelExchange_course id actor s
  | createReview author r =>
    cases hv : r.validText author with
    | error f => exact .refuses (by simp [Operation.Refused, perform, createReview, outcome_bind, hv])
    | ok text => exact .reaches (.createReview hv)
  | deleteReview id actor => exact deleteReview_course id actor s
  | _ => exact .looks rfl

/-- A service refuses and leaves the store as it is, only looks, or comes down to a port. -/
inductive Operation.Cases (summarize : String → String) (s : Store) (op : Operation) : Prop where
  | refuses (refused : ∃ f, outcome (perform summarize op) s = (.error f, s))
  | looks (query : op.isQuery) (unchanged : (outcome (perform summarize op) s).2 = s)
  | reaches {p : Port} (reached : op.Reaches summarize s p)

theorem perform_cases (summarize : String → String) (op : Operation) (s : Store) :
    op.Cases summarize s := by
  cases perform_course summarize op s with
  | refuses refused =>
    obtain ⟨f, h⟩ := refused
    exact .refuses ⟨f, h s.locked⟩
  | looks query => exact .looks query (same_of_isQuery (fun _ => rfl) query : Same s s _).unchanged
  | reaches reached => exact .reaches reached

/-! The same of a command. -/
namespace Command
variable {c : Command}

/-- The command, given to `s`, comes down to the port. -/
inductive Calls (s : Store) : Command → Port → Prop where
  | service {summarize : String → String} {op : Operation} {p : Port}
      (reached : op.Reaches summarize s p) : Calls s (.service summarize op) p
  | port {p : Port} : Calls s (.port p) p

theorem perform_of_calls (h : c.Calls s p) : outcome c.perform s = outcome p.perform s := by
  cases h with
  | service reached => exact perform_of_reaches reached
  | port => rfl

/-- A service's answer and the store that it leaves are the outcome of the operation. -/
theorem outcome_perform {r : Except Failure Answer} :
    outcome (Market.perform summarize op) s = (r, t) ↔
      (Command.service summarize op).answer s = r ∧ (Command.service summarize op).after s = t :=
  Prod.ext_iff

/-- A service that reads answers with what it reads. -/
theorem answer_of_read {α : Type} {look : Store → Except Failure α} {f : α → Answer} {a : α}
    (reads : Market.perform summarize op = f <$> Call.read look) (h : look s = .ok a) :
    (Command.service summarize op).answer s = .ok (f a) := by
  have hrun : outcome (Market.perform summarize op) s = (.ok (f a), s) := by
    rw [reads, outcome_map, outcome_read, h]
  exact (outcome_perform.mp hrun).1

/-- The command only looks. -/
def isQuery : Command → Bool
  | .service _ op => op.isQuery
  | .port _ => false

/-- A command fails and leaves the store as it is, only looks, or succeeds through a port. The
description of a book may be written and yet the book not be read. -/
inductive Cases (c : Command) (s : Store) : Prop where
  | fails {f : Failure} (failed : c.answer s = .error f) (unchanged : c.after s = s)
  | looks (query : c.isQuery) (unchanged : c.after s = s)
  | writes {p : Port} {a : Answer} (calls : c.Calls s p)
      (answered : outcome p.perform s = (.ok a, c.after s))
  | describes {id : BookId} {description : String} {f : Failure}
      (calls : c.Calls s (.describe id description)) (failed : c.answer s = .error f)
      (written : (Port.describe id description).Writes s (c.after s))
      (unreadable : ∀ b, (c.after s).book? id ≠ .ok (some b))

theorem cases_of_calls (h : c.Calls s p) : c.Cases s := by
  have hc : outcome p.perform s = (c.answer s, c.after s) := (perform_of_calls h).symm
  by_cases hp : ∃ id description, p = .describe id description
  · obtain ⟨id, description, rfl⟩ := hp
    have hd := hc
    simp only [Port.perform, outcome_map] at hd
    obtain ⟨f, h'⟩ | ⟨r, t, h', hw, hr⟩ := Port.describe_cases id description s
    · simp only [h', Prod.mk.injEq] at hd
      exact .fails hd.1.symm hd.2.symm
    · cases r with
      | ok b =>
        simp only [h', Prod.mk.injEq] at hd
        exact .writes h (by rw [hc, ← hd.1])
      | error f =>
        simp only [h', Prod.mk.injEq] at hd
        exact .describes h hd.1.symm (hd.2 ▸ hw) fun b hb => by simpa using (hr b).mpr (hd.2 ▸ hb)
  · have hne : ∀ id description, p ≠ .describe id description :=
      fun id description h => hp ⟨id, description, h⟩
    cases ha : c.answer s with
    | error f => exact .fails ha (Port.atomic_perform hne _ _ _ (ha ▸ hc))
    | ok a => exact .writes h (ha ▸ hc)

theorem cases (c : Command) (s : Store) : c.Cases s := by
  cases c with
  | service summarize op =>
    cases perform_cases summarize op s with
    | refuses refused =>
      obtain ⟨f, h⟩ := refused
      exact .fails (congrArg Prod.fst h) (congrArg Prod.snd h)
    | looks query unchanged => exact .looks query unchanged
    | reaches reached => exact cases_of_calls (.service reached)
  | port p => exact cases_of_calls .port

/-- A command that succeeds only looks, or has written through a port. -/
theorem writes_of_ok {a : Answer} (h : c.answer s = .ok a) :
    c.isQuery ∨ ∃ p, c.Calls s p ∧ p.Writes s (c.after s) := by
  cases c.cases s with
  | fails failed unchanged => cases failed.symm.trans h
  | looks query unchanged => exact .inl query
  | writes calls answered => exact .inr ⟨_, calls, Port.writes_of_ok answered⟩
  | describes calls failed written unreadable => cases failed.symm.trans h

/-- A command leaves the store as it is or writes through a port. -/
theorem after_cases (c : Command) (s : Store) :
    c.after s = s ∨ ∃ p, c.Calls s p ∧ p.Writes s (c.after s) := by
  cases c.cases s with
  | fails failed unchanged => exact .inl unchanged
  | looks query unchanged => exact .inl unchanged
  | writes calls answered => exact .inr ⟨_, calls, Port.writes_of_ok answered⟩
  | describes calls failed written unreadable => exact .inr ⟨_, calls, written⟩

/-- What no port breaks a command keeps. -/
theorem after_keeps {P : Store → Prop} (c : Command) (holds : P s)
    (written : ∀ p : Port, p.Writes s (c.after s) → P (c.after s)) : P (c.after s) := by
  obtain unchanged | ⟨p, -, hw⟩ := c.after_cases s
  · rwa [unchanged]
  · exact written p hw

end Command

end BookExchange.Market
