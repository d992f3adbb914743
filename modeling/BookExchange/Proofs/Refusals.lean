import BookExchange.Proofs.Proposals
import BookExchange.Proofs.Searching
import BookExchange.Proofs.Tombstones

/-! Calls that are refused, if they are, for what the caller asks. Whatever the storage engine could
object to has been looked at by then: the rows that can be read, the owner that a book needs, the links
that are not there yet, the rating within its bounds. -/
namespace BookExchange
open Call

/-- The result is no failure of the store's own. -/
def Regular {α : Type} (r : Except Failure α) : Prop := ∀ f, r = .error f → f.kind ≠ .internal

section Regular
variable {α β : Type} {s : Store}

@[simp] theorem regular_ok (a : α) : Regular (.ok a : Except Failure α) := fun _ h => by cases h

@[simp] theorem regular_error {f : Failure} :
    Regular (.error f : Except Failure α) ↔ f.kind ≠ .internal := by
  simp [Regular]

theorem Regular.bind {r : Except Failure α} {k : α → Except Failure β} (hr : Regular r)
    (hk : ∀ a, r = .ok a → Regular (k a)) : Regular (r >>= k) := by
  cases r with
  | error f => exact regular_error.mpr (hr f rfl)
  | ok a => exact hk a rfl

theorem regular_bind {c : Call α} {k : α → Call β} (hc : Regular (outcome c s).1)
    (hk : ∀ a t, outcome c s = (.ok a, t) → Regular (outcome (k a) t).1) :
    Regular (outcome (c >>= k) s).1 := by
  rw [outcome_bind]
  cases h : outcome c s with
  | mk r t =>
    rw [h] at hc
    cases r with
    | error f => exact regular_error.mpr (hc f rfl)
    | ok a => exact hk a t h

/-- What only looks leaves the store to what follows. -/
theorem regular_bind_of_quiet {c : Call α} {k : α → Call β} (quiet : Quiet c)
    (hc : Regular (outcome c s).1)
    (hk : ∀ a, outcome c s = (.ok a, s) → Regular (outcome (k a) s).1) :
    Regular (outcome (c >>= k) s).1 := by
  refine regular_bind hc fun a t h => ?_
  have hts := quiet s
  rw [h] at hts
  cases hts
  exact hk a h

theorem regular_read_bind {f : Store → Except Failure α} {k : α → Call β} (hf : Regular (f s))
    (hk : ∀ a, f s = .ok a → Regular (outcome (k a) s).1) :
    Regular (outcome (read f >>= k) s).1 := by
  refine regular_bind_of_quiet (quiet_read f) hf fun a h => hk a ?_
  exact congrArg Prod.fst h

theorem regular_lift_bind {r : Except Failure α} {k : α → Call β} (hr : Regular r)
    (hk : ∀ a, r = .ok a → Regular (outcome (k a) s).1) :
    Regular (outcome (liftM r >>= k) s).1 := by
  rw [outcome_bind, outcome_lift]
  cases r with
  | error e => exact regular_error.mpr (hr e rfl)
  | ok a => exact hk a rfl

/-- A check, in the form that it has in a sequence of checks. -/
theorem regular_guard {p : Prop} [Decidable p] {f : Failure} {k : Unit → Call α}
    (hf : f.kind ≠ .internal) (hk : ¬ p → Regular (outcome (k ()) s).1) :
    Regular (outcome (if p then throw f >>= k else k ()) s).1 := by
  by_cases h : p
  · rw [if_pos h]
    exact regular_error.mpr hf
  · rw [if_neg h]
    exact hk h

theorem regular_map {c : Call α} (f : α → β) (hc : Regular (outcome c s).1) :
    Regular (outcome (f <$> c) s).1 := by
  rw [map_eq_pure_bind]
  exact regular_bind hc fun a t _ => regular_ok _

theorem regular_write {f : Store → Except Failure (α × Store)} (h : Regular (f s)) :
    Regular (outcome (write f) s).1 := by
  rw [outcome_write]
  split
  · simp [Failure.locked, Failure.kind]
  · cases hf : f s with
    | error e => exact regular_error.mpr (h e hf)
    | ok r => exact regular_ok _

theorem regular_transaction {c : Call α} (hc : Regular (outcome c s).1) :
    Regular (outcome (transaction c) s).1 := by
  rw [outcome_transaction]
  cases h : outcome c s with
  | mk r t =>
    rw [h] at hc
    cases r with
    | error f => exact regular_error.mpr (hc f rfl)
    | ok a => exact regular_ok a

theorem regular_update {get? : Store → Option β} {condition : Store → β → Bool}
    {put : Store → Store} : Regular (outcome (update get? condition put) s).1 := by
  refine regular_write ?_
  split
  · split <;> exact regular_ok _
  · exact regular_ok _

/-- An update that found no row is followed by a refusal. -/
theorem regular_update_bind {get? : Store → Option β} {condition : Store → β → Bool}
    {put : Store → Store} {k : Bool → Call α} (hdone : ∀ t, Regular (outcome (k true) t).1)
    (hfailed : Regular (outcome (k false) s).1) :
    Regular (outcome (update get? condition put >>= k) s).1 := by
  refine regular_bind regular_update fun done t h => ?_
  cases done with
  | true => exact hdone t
  | false =>
    obtain ⟨-, rfl, -⟩ := update_eq_false.mp h
    exact hfailed

end Regular

/-- Only books that are there are filed under genres. -/
def Store.Filed (s : Store) : Prop := ∀ l ∈ s.links, (s.books.get? l.1).isSome

namespace Market
variable {s t : Store}

/-! Users. -/

theorem regular_checkName (name : String) : Regular (User.checkName name) := by
  unfold User.checkName
  split <;> simp [Failure.kind]

theorem regular_checkEmail (email : String) : Regular (User.checkEmail email) := by
  unfold User.checkEmail
  split <;> simp [Failure.kind]

theorem regular_createUser (r : User.Registration) : Regular (outcome (createUser r) s).1 := by
  have hvalid : Regular r.validate :=
    (regular_checkName r.name).bind fun _ _ => regular_checkEmail r.email
  refine regular_lift_bind hvalid fun _ _ => regular_write ?_
  simp only
  split <;> simp [Failure.kind]

theorem quiet_getUser (id : UserId) : Quiet (getUser id) := fun s =>
  (same_getUser (s := s) (fun _ => rfl) id).unchanged

theorem regular_getUser (id : UserId) : Regular (outcome (getUser id) s).1 := by
  refine regular_read_bind (regular_ok _) fun found _ => ?_
  cases found <;> simp [Failure.kind]

theorem regular_validate (c : User.Change) : Regular c.validate := by
  obtain ⟨name, email, city, address⟩ := c
  cases name with
  | none =>
    cases email with
    | none => exact regular_ok _
    | some email => exact regular_checkEmail email
  | some name =>
    refine (regular_checkName name).bind fun _ _ => ?_
    cases email with
    | none => exact regular_ok _
    | some email => exact regular_checkEmail email

theorem regular_updateUser (id actor : UserId) (c : User.Change) :
    Regular (outcome (updateUser id actor c) s).1 := by
  refine regular_guard (by decide) fun _ => regular_lift_bind (regular_validate c) fun _ _ => ?_
  refine regular_bind_of_quiet (quiet_getUser id) (regular_getUser id) fun u _ => ?_
  refine regular_bind (regular_write ?_) fun saved t _ => ?_
  · split
    · exact regular_ok _
    · split <;> simp [Failure.kind]
  · cases saved <;> simp [Failure.kind]

theorem regular_listUsers (q : Directory.Query) : Regular (outcome (listUsers q) s).1 :=
  regular_read_bind (regular_ok _) fun _ _ => regular_ok _

theorem regular_removeUser (id : UserId) : Regular (outcome (Store.removeUser id) s).1 := by
  refine regular_transaction (regular_update_bind (fun t => ?_) ?_)
  · exact regular_write (f := fun s => .ok ((), _)) (regular_ok _)
  · refine regular_read_bind (regular_ok _) fun found _ => ?_
    cases found <;> exact regular_error.mpr (by simp [Failure.kind])

/-! Exchanges. -/

section Dated
variable (dated : ∀ x row, s.exchanges.get? x = some row → row.Dated)
include dated

theorem regular_views {rows : List (ExchangeId × ExchangeRow)}
    (found : ∀ r ∈ rows, s.exchanges.get? r.1 = some r.2) :
    Regular (rows.mapM fun r => r.2.view r.1) := by
  obtain ⟨es, hes, -⟩ := exists_mapM fun r hr => exists_view dated (found r hr)
  exact hes ▸ regular_ok es

theorem regular_exchangesOf (user : UserId) (status : Option Exchange.Status) :
    Regular (s.exchangesOf user status) := by
  refine regular_views dated fun r hr => ?_
  exact Table.mem_entries.mp (List.mem_filter.mp (List.mem_mergeSort.mp hr)).1

theorem regular_allExchanges : Regular s.allExchanges :=
  regular_views dated fun _ hr => Table.mem_entries.mp hr

theorem regular_getExchange (id : ExchangeId) : Regular (outcome (getExchange id) s).1 := by
  refine regular_guard (by decide) fun _ => regular_read_bind ?_ fun found _ => ?_
  · cases hrow : s.exchanges.get? id with
    | none => simp [Store.exchange?, hrow]
    | some row =>
      obtain ⟨e, he⟩ := exists_view dated hrow
      simp [Store.exchange?, hrow, he, bind, Except.bind, pure, Except.pure]
  · cases found <;> simp [Failure.kind]

theorem regular_deleteUser (id actor : UserId) : Regular (outcome (deleteUser id actor) s).1 := by
  refine regular_guard (by decide) fun _ => ?_
  refine regular_bind_of_quiet (quiet_getUser id) (regular_getUser id) fun u _ => ?_
  refine regular_read_bind (regular_exchangesOf dated id none) fun es _ => ?_
  exact regular_guard (by decide) fun _ => regular_removeUser id

end Dated

/-! Books and genres. -/

theorem regular_book? (keyed : s.Keyed) (id : BookId) : Regular (s.book? id) := by
  cases hrow : s.liveBook? id with
  | none => exact Store.book?_of_none hrow ▸ regular_ok none
  | some row =>
    have hsound := (keyed.books id row (Store.liveBook?_eq_some.mp hrow).1).1
    exact Store.book?_eq_bookOf hrow hsound ▸ regular_ok _

theorem quiet_getBook (id : BookId) : Quiet (getBook id) := fun s =>
  (same_getBook (s := s) (fun _ => rfl) id).unchanged

theorem regular_getBook (keyed : s.Keyed) (id : BookId) : Regular (outcome (getBook id) s).1 := by
  refine regular_read_bind (regular_book? keyed id) fun found _ => ?_
  cases found <;> simp [Failure.kind]

theorem regular_requireStatus (keyed : s.Keyed) (id : BookId) : Regular (s.requireStatus id) := by
  cases hrow : s.liveBook? id with
  | none =>
    simp [Store.requireStatus, Store.statusOf, hrow, bind, Except.bind, throw, throwThe,
      MonadExceptOf.throw, Failure.kind]
  | some row =>
    obtain ⟨status, hs⟩ := (keyed.books id row (Store.liveBook?_eq_some.mp hrow).1).1.status
    simp [Store.requireStatus, Store.statusOf, hrow, hs, Stored.decode, bind, Except.bind, pure,
      Except.pure]

theorem regular_updateBook (keyed : s.Keyed) (id : BookId) (actor : UserId) (c : Book.Change) :
    Regular (outcome (updateBook id actor c) s).1 := by
  refine regular_bind_of_quiet (quiet_getBook id) (regular_getBook keyed id) fun b _ => ?_
  refine regular_guard (by decide) fun _ => ?_
  obtain ⟨_ | description⟩ := c
  · exact regular_ok b
  refine regular_bind regular_update fun done t h => ?_
  cases done with
  | false => exact regular_error.mpr (by simp [Failure.kind])
  | true =>
    -- The book is read again after the write, which has left its status readable.
    obtain ⟨-, row, -, -, rfl⟩ := update_eq_true.mp h
    have hkeyed : (s.setBook id (.describe description)).Keyed :=
      keyed.setBook (fun _ _ hrow => hrow.describe description) fun _ _ => .inl rfl
    exact regular_getBook hkeyed id

theorem regular_deleteBook (keyed : s.Keyed) (id : BookId) (actor : UserId) :
    Regular (outcome (deleteBook id actor) s).1 := by
  refine regular_bind_of_quiet (quiet_getBook id) (regular_getBook keyed id) fun b _ => ?_
  refine regular_guard (by decide) fun _ => regular_guard (by decide) fun _ => ?_
  refine regular_update_bind (fun t => regular_ok ()) ?_
  refine regular_read_bind (regular_requireStatus keyed id) fun _ _ => ?_
  exact regular_error.mpr (by decide)

theorem regular_createGenre (name : String) : Regular (outcome (createGenre name) s).1 := by
  refine regular_lift_bind ?_ fun _ _ => regular_write ?_
  · unfold Genre.validName
    split <;> simp [Failure.kind]
  · simp only
    split <;> simp [Failure.kind]

theorem regular_getGenre (id : GenreId) : Regular (outcome (getGenre id) s).1 := by
  refine regular_guard (by decide) fun _ => regular_read_bind (regular_ok _) fun found _ => ?_
  cases found <;> simp [Failure.kind]

theorem regular_deleteGenre (id : GenreId) : Regular (outcome (deleteGenre id) s).1 := by
  refine regular_guard (by decide) fun _ => regular_update_bind (fun t => regular_ok ()) ?_
  exact regular_error.mpr (by simp [Failure.kind])

/-! A book under its genres. -/

theorem Port.Writes.filed {p : Port} (h : p.Writes s t) (filed : s.Filed) : t.Filed := by
  have hlinks : ∀ l ∈ t.links, l ∈ s.links ∨ (t.books.get? l.1).isSome := by
    intro l hl
    cases h with
    | insertBook =>
      obtain hl | hl := List.mem_append.mp hl
      · exact .inl hl
      · obtain ⟨g, -, rfl⟩ := List.mem_map.mp hl
        exact .inr (by simp [Table.get?_insert])
    | removeGenre => exact .inl (List.mem_filter.mp hl).1
    | _ => exact .inl hl
  intro l hl
  obtain hold | hnew := hlinks l hl
  · exact h.book_kept (filed l hold)
  · exact hnew

theorem Run.filed {allowed : List Store → Command → Prop} {log : List Event}
    (run : Run allowed .fresh log s) : s.Filed :=
  run.preserves (P := Store.Filed) (by simp [Store.Filed, Store.fresh]) fun _ c filed =>
    c.after_keeps filed fun _ hw => hw.filed filed

theorem mem_dedup {xs : List Int} {x : Int} : x ∈ Book.dedup xs ↔ x ∈ xs := by
  fun_induction Book.dedup xs with
  | case1 a rest ih => simp [ih]
  | case2 a b rest hne ih => rw [List.mem_cons, ih, List.mem_cons (a := x) (b := a)]
  | case3 => rfl

/-- What is left of a sorted list ascends. -/
theorem pairwise_dedup {xs : List Int} (sorted : xs.Pairwise (· ≤ ·)) :
    (Book.dedup xs).Pairwise (· < ·) := by
  fun_induction Book.dedup xs with
  | case1 a rest ih => exact ih (List.pairwise_cons.mp sorted).2
  | case2 a b rest hne ih =>
    obtain ⟨hleast, hrest⟩ := List.pairwise_cons.mp sorted
    have hfirst : a < b := lt_of_le_of_ne (hleast b List.mem_cons_self) hne
    refine List.pairwise_cons.mpr ⟨fun x hx => ?_, ih hrest⟩
    obtain rfl | hx := List.mem_cons.mp (mem_dedup.mp hx)
    · exact hfirst
    · exact hfirst.trans_le ((List.pairwise_cons.mp hrest).1 x hx)
  | case3 xs h =>
    cases xs with
    | nil => exact .nil
    | cons a xs =>
      cases xs with
      | nil => exact List.pairwise_singleton _ _
      | cons b xs => exact absurd rfl (h a b xs)

theorem pairwise_entry (o : Book.Offer) (owner : UserId) (summary : String) :
    (o.entry owner summary).genres.Pairwise (· < ·) :=
  pairwise_dedup (List.pairwise_mergeSort' _ _)

theorem regular_link {id : BookId} {genre : GenreId} (free : s.isLinked id genre = false) :
    Regular (outcome (Store.link id genre) s).1 := by
  refine regular_read_bind (regular_ok _) fun found _ => ?_
  cases found with
  | none => exact regular_error.mpr (by simp [Failure.kind])
  | some g =>
    refine regular_bind (regular_write ?_) fun _ _ _ => regular_ok g
    simp [free]

/-- No link is written twice: the genres differ, and each link adds its own genre only. -/
theorem regular_mapM_link {id : BookId} {genres : List GenreId} (distinct : genres.Nodup)
    (free : ∀ g ∈ genres, (id, g) ∉ s.links) :
    Regular (outcome (genres.mapM (Store.link id)) s).1 := by
  induction genres generalizing s with
  | nil => exact regular_ok _
  | cons genre genres ih =>
    obtain ⟨hnew, hrest⟩ := List.nodup_cons.mp distinct
    rw [List.mapM_cons]
    have hfree : s.isLinked id genre = false := by
      simpa [Store.isLinked] using free genre List.mem_cons_self
    refine regular_bind (regular_link hfree) fun g t h => ?_
    obtain ⟨-, -, -, rfl⟩ := Store.link_eq_ok.mp h
    refine regular_bind (ih hrest fun g' hg' hmem => ?_) fun _ _ _ => regular_ok _
    obtain hmem | hmem := List.mem_append.mp hmem
    · exact free g' (List.mem_cons_of_mem _ hg') hmem
    · cases List.mem_singleton.mp hmem
      exact hnew hg'

theorem regular_validate_offer (o : Book.Offer) : Regular o.validate := by
  by_cases htitle : Text.trim o.title = "" <;> by_cases hauthor : Text.trim o.author = "" <;>
    simp [Book.Offer.validate, htitle, hauthor, bind, Except.bind, pure, Except.pure, throw, throwThe,
      MonadExceptOf.throw, Failure.kind]

theorem regular_createBook (filed : s.Filed) {owner : UserId} (known : (s.users.get? owner).isSome)
    (summarize : String → String) (o : Book.Offer) :
    Regular (outcome (createBook summarize owner o) s).1 := by
  have hknown : (s.users.get? owner).isNone = false := by simpa using known
  have hnew : ∀ g, (s.books.nextId, g) ∉ s.links := by
    intro g hg
    simpa [Table.get?_nextId] using filed _ hg
  -- The book's identifier is new, so that no link names it yet.
  refine regular_lift_bind (regular_validate_offer o) fun _ _ =>
    regular_transaction (regular_bind (regular_write ?_) ?_)
  · simp [Book.Offer.entry, hknown]
  · intro row t h
    obtain ⟨-, h⟩ := write_eq_ok.mp h
    simp only [Book.Offer.entry, hknown, Bool.false_eq_true, ↓reduceIte, Except.ok.injEq,
      Prod.mk.injEq] at h
    obtain ⟨rfl, rfl⟩ := h
    have hnodup : (o.entry owner (summaryOf summarize o)).genres.Nodup :=
      (pairwise_entry o owner _).imp Int.ne_of_lt
    exact regular_bind (regular_mapM_link hnodup fun g _ => hnew g) fun _ _ _ => regular_ok _

/-! Reviews. -/

/-- The service lets no rating pass that the store would object to. -/
theorem regular_createReview (author : UserId) (r : Review.Submission) :
    Regular (outcome (createReview author r) s).1 := by
  by_cases htext : (Text.trim r.text).length < Review.textLeast ∨
      Review.textGreatest < (Text.trim r.text).length
  · simp [createReview, Review.Submission.validText, htext, outcome_bind, Failure.kind]
  by_cases hrating : r.rating < Review.ratingLeast ∨ Review.ratingGreatest < r.rating
  · simp [createReview, Review.Submission.validText, htext, hrating, outcome_bind, Failure.kind]
  refine regular_lift_bind ?_ fun text _ => regular_write ?_
  · simp only [Review.Submission.validText, htext, hrating, ↓reduceIte]
    split <;> simp [Failure.kind]
  · simp [hrating]

theorem regular_deleteReview (id : ReviewId) (actor : UserId) :
    Regular (outcome (deleteReview id actor) s).1 := by
  refine regular_read_bind (regular_ok _) fun found _ => ?_
  cases found with
  | none => exact regular_error.mpr (by simp [Failure.kind])
  | some review =>
    refine regular_guard (by decide) fun _ => regular_update_bind (fun t => regular_ok ()) ?_
    exact regular_error.mpr (by simp [Failure.kind])

/-! Exchanges that are proposed or moved on. -/

theorem regular_createExchange (unlocked : s.locked = false) (keyed : s.Keyed)
    (summarize : String → String) (initiator : UserId) (r : Exchange.Request) :
    Regular ((Command.service summarize (.createExchange initiator r)).answer s) := by
  have hanswered := answered unlocked keyed summarize initiator r
  cases hfirst : Failure.first (proposalRules s initiator r) with
  | none =>
    obtain ⟨e, he, -⟩ := hanswered.opened hfirst
    exact he ▸ regular_ok _
  | some f =>
    rw [(hanswered.refused f hfirst).1, regular_error]
    obtain ⟨applies, hmem⟩ := Failure.mem_of_first hfirst
    simp only [proposalRules, List.mem_cons, Prod.mk.injEq, List.not_mem_nil, or_false] at hmem
    obtain h | h | h | h | h | h | h := hmem <;> simp [h.2, Failure.kind]

theorem regular_move (unlocked : s.locked = false)
    (dated : ∀ x row, s.exchanges.get? x = some row → row.Dated) (backed : s.Backed)
    (consistent : s.Consistent) (summarize : String → String) (m : Move) :
    Regular ((m.command summarize).answer s) := by
  have hdecided := m.decided dated unlocked backed consistent summarize
  cases hfirst : Failure.first (m.rules s) with
  | none => exact (hdecided.done hfirst).1 ▸ regular_ok _
  | some f =>
    rw [(hdecided.refused f hfirst).1, regular_error]
    obtain ⟨applies, hmem⟩ := Failure.mem_of_first hfirst
    simp only [Move.rules, List.mem_cons, Prod.mk.injEq, List.not_mem_nil, or_false] at hmem
    obtain h | h | h | h := hmem
    · simp [h.2, Failure.kind]
    · simp [h.2, Failure.kind]
    · cases ha : m.action <;> simp [h.2, ha, Exchange.Action.refusal, Failure.kind]
    · simp [h.2, Failure.kind]

end Market

end BookExchange
