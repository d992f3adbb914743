import BookExchange.Proofs.Atomicity

/-! A deleted book might as well have no row: whatever only reads answers as if there were none, and
what it shows of a book is what it shows when asked for that book alone. -/
namespace BookExchange
open Call

namespace Table
variable {α : Type}

theorem entriesFrom_set (slots : List (Option α)) (k : Int) (n : Nat) :
    entriesFrom k (slots.set n none) = (entriesFrom k slots).filter (·.1 ≠ k + n) := by
  induction slots generalizing k n with
  | nil => rfl
  | cons slot rest ih =>
    cases n with
    | zero =>
      have hlater : (entriesFrom (k + 1) rest).filter (·.1 ≠ k) = entriesFrom (k + 1) rest := by
        refine List.filter_eq_self.mpr fun entry hentry => ?_
        obtain ⟨n, hn, -⟩ := mem_entriesFrom.mp hentry
        have hne : entry.1 ≠ k := by omega
        simpa using hne
      cases slot <;> simpa [entriesFrom] using hlater.symm
    | succ n =>
      have hindex : k + 1 + (n : Int) = k + (n + 1 : Nat) := by omega
      have hrest := ih (k + 1) n
      rw [hindex] at hrest
      cases slot with
      | none => simpa [entriesFrom] using hrest
      | some row =>
        have hne : k ≠ k + (n + 1 : Nat) := by omega
        rw [List.set_cons_succ, entriesFrom, entriesFrom,
          List.filter_cons_of_pos (by simpa using hne), hrest]

theorem entries_erase (t : Table α) (id : Int) :
    (t.erase id).entries = t.entries.filter (·.1 ≠ id) := by
  obtain hid | ⟨n, rfl⟩ := nonpos_or_succ id
  · have hall : t.entries.filter (·.1 ≠ id) = t.entries := by
      refine List.filter_eq_self.mpr fun entry hentry => ?_
      have hpos := pos_of_get? (mem_entries.mp hentry)
      have hne : entry.1 ≠ id := by omega
      simpa using hne
    rw [hall, erase, if_pos hid]
  · have hpos : ¬ (n : Int) + 1 ≤ 0 := by omega
    have hn : ((n : Int) + 1 - 1).toNat = n := by omega
    rw [erase, if_neg hpos, hn, entries, entries, entriesFrom_set, Int.add_comm]

end Table

/-- What is refused anyway can be left out before. -/
theorem filterM_filter {α : Type} {f : α → Except Failure Bool} {p : α → Bool} {xs : List α}
    (h : ∀ x ∈ xs, p x = false → f x = .ok false) : (xs.filter p).filterM f = xs.filterM f := by
  have haux (acc : List α) : (xs.filter p).filterAuxM f acc = xs.filterAuxM f acc := by
    induction xs generalizing acc with
    | nil => rfl
    | cons x xs ih =>
      have ih := ih fun y hy => h y (List.mem_cons_of_mem _ hy)
      cases hp : p x with
      | true =>
        rw [List.filter_cons_of_pos hp]
        simp only [List.filterAuxM, ih]
      | false =>
        rw [List.filter_cons_of_neg (by simp [hp])]
        simp [List.filterAuxM, h x List.mem_cons_self hp, ih, bind, Except.bind]
  simp only [List.filterM, haux]

theorem mem_of_filterAuxM {α : Type} {f : α → Except Failure Bool} {xs acc ys : List α} {y : α}
    (h : xs.filterAuxM f acc = .ok ys) (hy : y ∈ ys) : y ∈ acc ∨ y ∈ xs ∧ f y = .ok true := by
  induction xs generalizing acc with
  | nil =>
    cases h
    exact .inl hy
  | cons x xs ih =>
    obtain ⟨kept, hx, hrest⟩ := except_bind_eq_ok.mp h
    obtain hacc | ⟨hxs, hf⟩ := ih hrest
    · cases kept with
      | false => exact .inl hacc
      | true =>
        obtain rfl | hacc := List.mem_cons.mp hacc
        · exact .inr ⟨List.mem_cons_self, hx⟩
        · exact .inl hacc
    · exact .inr ⟨List.mem_cons_of_mem _ hxs, hf⟩

theorem mem_of_filterM {α : Type} {f : α → Except Failure Bool} {xs ys : List α} {y : α}
    (h : xs.filterM f = .ok ys) (hy : y ∈ ys) : y ∈ xs ∧ f y = .ok true := by
  obtain ⟨zs, hzs, hys⟩ := except_bind_eq_ok.mp h
  cases hys
  obtain hacc | hxs := mem_of_filterAuxM hzs (List.mem_reverse.mp hy)
  · simp at hacc
  · exact hxs

theorem mem_of_mapM {α β : Type} {f : α → Except Failure β} {xs : List α} {ys : List β} {y : β}
    (h : xs.mapM f = .ok ys) (hy : y ∈ ys) : ∃ x ∈ xs, f x = .ok y := by
  induction xs generalizing ys with
  | nil =>
    cases h
    simp at hy
  | cons x xs ih =>
    rw [List.mapM_cons] at h
    obtain ⟨z, hz, h⟩ := except_bind_eq_ok.mp h
    obtain ⟨zs, hzs, h⟩ := except_bind_eq_ok.mp h
    cases h
    obtain rfl | hy := List.mem_cons.mp hy
    · exact ⟨x, List.mem_cons_self, hz⟩
    · obtain ⟨w, hw, hf⟩ := ih hzs hy
      exact ⟨w, List.mem_cons_of_mem _ hw, hf⟩

theorem exists_mapM {α β : Type} {f : α → Except Failure β} {xs : List α}
    (h : ∀ x ∈ xs, ∃ y, f x = .ok y) :
    ∃ ys, xs.mapM f = .ok ys ∧ ∀ x ∈ xs, ∀ y, f x = .ok y → y ∈ ys := by
  induction xs with
  | nil => exact ⟨[], rfl, by simp⟩
  | cons x xs ih =>
    obtain ⟨y, hy⟩ := h x List.mem_cons_self
    obtain ⟨ys, hys, hmem⟩ := ih fun x' hx' => h x' (List.mem_cons_of_mem _ hx')
    refine ⟨y :: ys, by simp [List.mapM_cons, hy, hys, bind, Except.bind, pure, Except.pure], ?_⟩
    intro x' hx' y' hy'
    obtain rfl | hx' := List.mem_cons.mp hx'
    · cases hy.symm.trans hy'
      exact List.mem_cons_self
    · exact List.mem_cons_of_mem _ (hmem x' hx' y' hy')

namespace Store
variable {s : Store} {b : BookId}

/-- The book's row is kept, but it is deleted. -/
def IsBuried (s : Store) (b : BookId) : Prop :=
  ∃ row, s.books.get? b = some row ∧ row.isLive = false

instance (s : Store) (b : BookId) : Decidable (s.IsBuried b) :=
  decidable_of_iff ((s.books.get? b).any fun row => !row.isLive) (by
    simp [IsBuried, Option.any_eq_true])

/-- The store without the book's row. -/
def withoutBook (s : Store) (b : BookId) : Store := { s with books := s.books.erase b }

theorem withoutBook_get? (s : Store) (b : BookId) : (s.withoutBook b).books.get? b = none := by
  simp [withoutBook, Table.get?_erase]

theorem withoutBook_entries (s : Store) (b : BookId) :
    (s.withoutBook b).books.entries = s.books.entries.filter (·.1 ≠ b) :=
  Table.entries_erase s.books b

/-- The entry of a buried book is that of a deleted row. -/
theorem IsBuried.not_isLive (h : s.IsBuried b) {r : BookId × BookRow} (hr : r ∈ s.books.entries)
    (hb : r.1 = b) : r.2.isLive = false := by
  obtain ⟨row, hrow, hlive⟩ := h
  have hr := Table.mem_entries.mp hr
  rw [hb, hrow] at hr
  cases hr
  exact hlive

theorem IsBuried.liveBook?_eq_none (h : s.IsBuried b) : s.liveBook? b = none := by
  obtain ⟨row, hrow, hlive⟩ := h
  simp [liveBook?, hrow, hlive]

theorem IsBuried.liveBook?_withoutBook (h : s.IsBuried b) (id : BookId) :
    (s.withoutBook b).liveBook? id = s.liveBook? id := by
  by_cases hid : id = b
  · rw [hid, h.liveBook?_eq_none, liveBook?, withoutBook_get?]
    rfl
  · simp [liveBook?, withoutBook, Table.get?_erase, hid]

theorem IsBuried.book?_withoutBook (h : s.IsBuried b) (id : BookId) :
    (s.withoutBook b).book? id = s.book? id := by
  simp only [book?, h.liveBook?_withoutBook]
  rfl

theorem IsBuried.requireStatus_withoutBook (h : s.IsBuried b) (id : BookId) :
    (s.withoutBook b).requireStatus id = s.requireStatus id := by
  simp only [requireStatus, statusOf, h.liveBook?_withoutBook]

/-- A deleted row is let through by no search, so it might as well not be there. -/
theorem IsBuried.matching_withoutBook (h : s.IsBuried b) (q : Catalogue.Search) :
    (s.withoutBook b).matching q = s.matching q := by
  have hlets : ∀ r ∈ s.books.entries, decide (r.1 ≠ b) = false → s.lets q r.1 r.2 = .ok false := by
    intro r hr hb
    have hlive := h.not_isLive hr (by simpa using hb)
    simp [lets, hlive]
  have hsame : (fun r : BookId × BookRow => (s.withoutBook b).lets q r.1 r.2) =
      fun r => s.lets q r.1 r.2 := rfl
  rw [matching, matching, withoutBook_entries, hsame]
  exact filterM_filter hlets

theorem IsBuried.search_withoutBook (h : s.IsBuried b) (q : Catalogue.Search) :
    (s.withoutBook b).search q = s.search q := by
  simp only [search, h.matching_withoutBook]
  rfl

theorem IsBuried.availableBooks_withoutBook (h : s.IsBuried b) (city : Option String) :
    (s.withoutBook b).availableBooks city = s.availableBooks city := by
  simp only [availableBooks, h.matching_withoutBook]
  rfl

theorem IsBuried.filter_withoutBook (h : s.IsBuried b) {p : BookId × BookRow → Bool}
    (hp : ∀ r, p r → r.2.isLive) :
    (s.withoutBook b).books.entries.filter p = s.books.entries.filter p := by
  rw [withoutBook_entries, List.filter_filter]
  refine List.filter_congr fun r hr => ?_
  by_cases hb : r.1 = b
  · have hlive := h.not_isLive hr hb
    cases hpr : p r with
    | false => rfl
    | true => simp [hp r hpr] at hlive
  · simp [hb]

theorem IsBuried.booksOf_withoutBook (h : s.IsBuried b) (owner : UserId)
    (status : Option Book.Status) : (s.withoutBook b).booksOf owner status = s.booksOf owner status := by
  rw [booksOf, h.filter_withoutBook]
  · rfl
  · intro r hr
    simp only [Bool.and_eq_true] at hr
    exact hr.1.1

/-! What is shown is what the book alone is shown as. -/

variable {k : Book} {id : BookId}

theorem id_of_view {row : BookRow} (h : row.view id = .ok k) : k.id = id := by
  obtain ⟨status, -, h⟩ := except_bind_eq_ok.mp h
  cases h
  rfl

theorem id_of_book? (h : s.book? id = .ok (some k)) : k.id = id := by
  cases hlive : s.liveBook? id with
  | none => simp [book?_of_none hlive] at h
  | some row =>
    cases hview : row.view id with
    | error f => simp [book?_of_some hlive, hview, Except.map] at h
    | ok v =>
      simp only [book?_of_some hlive, hview, Except.map, Except.ok.injEq, Option.some.injEq] at h
      subst h
      have hid : v.id = id := id_of_view hview
      exact hid

theorem book?_of_hydrate {rows : List (BookId × BookRow)} {books : List Book}
    (h : s.hydrate rows = .ok books) (hrows : ∀ r ∈ rows, r ∈ s.books.entries ∧ r.2.isLive)
    (hk : k ∈ books) : s.book? k.id = .ok (some k) := by
  obtain ⟨views, hviews, h⟩ := except_bind_eq_ok.mp h
  simp only at h
  split at h
  · cases h
  cases h
  obtain ⟨v, hv, rfl⟩ := List.mem_map.mp hk
  obtain ⟨⟨id, row⟩, hr, hview⟩ := mem_of_mapM hviews hv
  have hid : v.id = id := id_of_view hview
  subst hid
  obtain ⟨hentry, live⟩ := hrows _ hr
  have hlive := liveBook?_eq_some.mpr ⟨Table.mem_entries.mp hentry, live⟩
  simp [book?_of_some hlive, hview, Except.map]

theorem isLive_of_lets {q : Catalogue.Search} {row : BookRow} (h : s.lets q id row = .ok true) :
    row.isLive := by
  by_contra hlive
  simp [lets, hlive] at h

theorem book?_of_search {q : Catalogue.Search} {books : List Book} {total : Nat}
    (h : s.search q = .ok (books, total)) (hk : k ∈ books) : s.book? k.id = .ok (some k) := by
  obtain ⟨rows, hrows, h⟩ := except_bind_eq_ok.mp h
  obtain ⟨books', hbooks, h⟩ := except_bind_eq_ok.mp h
  cases h
  refine book?_of_hydrate hbooks (fun r hr => ?_) hk
  have hr := List.mem_of_mem_drop (List.mem_of_mem_take hr)
  obtain ⟨hentry, hlets⟩ := mem_of_filterM hrows (List.mem_mergeSort.mp hr)
  exact ⟨hentry, isLive_of_lets hlets⟩

theorem book?_of_booksOf {owner : UserId} {status : Option Book.Status} {books : List Book}
    (h : s.booksOf owner status = .ok books) (hk : k ∈ books) : s.book? k.id = .ok (some k) := by
  refine book?_of_hydrate h (fun r hr => ?_) hk
  obtain ⟨hentry, hcondition⟩ := List.mem_filter.mp (List.mem_mergeSort.mp hr)
  simp only [Bool.and_eq_true] at hcondition
  exact ⟨hentry, hcondition.1.1⟩

theorem book?_of_availableBooks {city : Option String} {books : List Book}
    (h : s.availableBooks city = .ok books) (hk : k ∈ books) : s.book? k.id = .ok (some k) := by
  obtain ⟨rows, hrows, hbooks⟩ := except_bind_eq_ok.mp h
  refine book?_of_hydrate hbooks (fun r hr => ?_) hk
  obtain ⟨hentry, hlets⟩ := mem_of_filterM hrows (List.mem_mergeSort.mp hr)
  exact ⟨hentry, isLive_of_lets hlets⟩

end Store

namespace Market
variable {summarize : String → String} {s t : Store} {op : Operation} {a : Answer} {b : BookId}

/-- Whatever only reads answers as if a deleted book had no row. -/
theorem alike_withoutBook (h : s.IsBuried b) : Alike (s.withoutBook b) s := by
  intro l
  cases l with
  | book id => exact h.book?_withoutBook id
  | statusOf id => exact h.requireStatus_withoutBook id
  | search q => exact h.search_withoutBook q
  | booksOf owner status => exact h.booksOf_withoutBook owner status
  | availableBooks city => exact h.availableBooks_withoutBook city
  | _ => rfl

/-- The answer has the book in it. -/
def Answer.Shows (b : BookId) : Answer → Prop
  | .book k => k.id = b
  | .books ks => ∃ k ∈ ks, k.id = b
  | .page p => ∃ k ∈ p.data, k.id = b
  | _ => False

/-- The answer has this in it about a book. -/
def Answer.Has (k : Book) : Answer → Prop
  | .book k' => k' = k
  | .books ks => k ∈ ks
  | .page p => k ∈ p.data
  | _ => False

theorem Answer.Shows.has (h : a.Shows b) : ∃ k, a.Has k ∧ k.id = b := by
  cases a with
  | book k => exact ⟨k, rfl, h⟩
  | books ks => exact h
  | page p => exact h
  | _ => exact h.elim

variable {k : Book}

theorem book?_of_getBook {id : BookId} (h : outcome (getBook id) s = (.ok k, t)) :
    s.book? k.id = .ok (some k) := by
  obtain ⟨f, hf⟩ | ⟨k', found, hk⟩ := getBook_cases id s
  · cases hf.symm.trans h
  · cases hk.symm.trans h
    rwa [Store.id_of_book? found]

/-- A book that is to be changed in nothing is only looked up. -/
theorem getBook_of_updateBook {id : BookId} {actor : UserId}
    (h : outcome (updateBook id actor ⟨none⟩) s = (.ok k, t)) :
    outcome (getBook id) s = (.ok k, t) := by
  obtain ⟨k', u, hk', h⟩ := bind_eq_ok.mp h
  by_cases howner : k'.owner = actor
  · simp only [howner, ne_eq, not_true_eq_false, ↓reduceIte, outcome_pure] at h
    cases h
    exact hk'
  · simp [howner] at h

theorem book?_of_updateBook {id : BookId} {actor : UserId}
    (h : outcome (updateBook id actor ⟨none⟩) s = (.ok k, t)) : s.book? k.id = .ok (some k) :=
  book?_of_getBook (getBook_of_updateBook h)

theorem book?_of_searchBooks {q : Catalogue.Query} {p : Catalogue.Page}
    (h : outcome (searchBooks q) s = (.ok p, t)) (hk : k ∈ p.data) :
    s.book? k.id = .ok (some k) := by
  obtain ⟨search, u, hsearch, h⟩ := bind_eq_ok.mp h
  rw [outcome_lift, Prod.mk.injEq] at hsearch
  obtain ⟨-, rfl⟩ := hsearch
  obtain ⟨⟨books, total⟩, v, hread, h⟩ := bind_eq_ok.mp h
  cases h
  exact Store.book?_of_search (congrArg Prod.fst hread) hk

/-- Whatever other books it comes with, a query shows a book as it is shown alone. -/
theorem book?_of_has (query : op.isQuery) (h : outcome (perform summarize op) s = (.ok a, t))
    (shown : a.Has k) : s.book? k.id = .ok (some k) := by
  cases op with
  | getBook id =>
    rw [perform, map_eq_ok] at h
    obtain ⟨k', h, rfl⟩ := h
    cases shown
    exact book?_of_getBook h
  | updateBook id actor c =>
    obtain ⟨_ | description⟩ := c
    · rw [perform, map_eq_ok] at h
      obtain ⟨k', h, rfl⟩ := h
      cases shown
      exact book?_of_updateBook h
    · cases query
  | searchBooks q =>
    rw [perform, map_eq_ok] at h
    obtain ⟨p, h, rfl⟩ := h
    exact book?_of_searchBooks h shown
  | booksOf owner status =>
    rw [perform, map_eq_ok] at h
    obtain ⟨ks, h, rfl⟩ := h
    exact Store.book?_of_booksOf (congrArg Prod.fst h) shown
  | availableBooks city =>
    rw [perform, map_eq_ok] at h
    obtain ⟨ks, h, rfl⟩ := h
    exact Store.book?_of_availableBooks (congrArg Prod.fst h) shown
  | getUser id | listUsers q | profile id | getGenre id | listGenres | getExchange id | listExchanges
  | exchangesOf user status | reviewsOfUser user | reviewsOfBook book | ratingOf user =>
    -- The answer is no book.
    rw [perform, map_eq_ok] at h
    obtain ⟨x, -, rfl⟩ := h
    exact shown.elim
  | _ => cases query

theorem isSome_of_shows (query : op.isQuery) (h : outcome (perform summarize op) s = (.ok a, t))
    (shown : a.Shows b) : (s.books.get? b).isSome := by
  obtain ⟨k, has, rfl⟩ := shown.has
  obtain ⟨row, status, hrow, -⟩ := Store.exists_book?.mp ⟨k, book?_of_has query h has⟩
  simp [(Store.liveBook?_eq_some.mp hrow).1]

end Market

end BookExchange
