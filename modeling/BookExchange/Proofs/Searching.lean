import BookExchange.Proofs.Atomicity
import BookExchange.Proofs.Keys
import BookExchange.Proofs.Listing

/-! Searching the catalogue answers with the pages of the listing. -/
namespace BookExchange
open Text

/-! Sorting by a key. -/

section Sorting
variable {α β : Type} [LinearOrder β] {le : α → α → Bool} {key : α → β} {xs ys : List α}
  (le_iff : ∀ a b, le a b ↔ key a ≤ key b)
include le_iff

theorem pairwise_mergeSort (xs : List α) : (xs.mergeSort le).Pairwise fun a b => key a ≤ key b := by
  refine (List.pairwise_mergeSort ?_ ?_ xs).imp fun h => (le_iff _ _).mp h
  · intro a b c hab hbc
    rw [le_iff] at hab hbc ⊢
    exact hab.trans hbc
  · intro a b
    rw [Bool.or_eq_true, le_iff, le_iff]
    exact le_total _ _

/-- A list in order is the sorted list, where no two elements have the same key. -/
theorem eq_mergeSort (distinct : ∀ a ∈ xs, ∀ b ∈ xs, key a = key b → a = b) (perm : ys.Perm xs)
    (ordered : ys.Pairwise fun a b => key a ≤ key b) : ys = xs.mergeSort le := by
  refine List.Perm.eq_of_pairwise (fun a b ha hb hab hba => ?_) ordered
    (pairwise_mergeSort le_iff xs) (perm.trans (List.mergeSort_perm xs le).symm)
  exact distinct a (perm.mem_iff.mp ha) b (List.mem_mergeSort.mp hb) (le_antisymm hab hba)

/-- What is let through stands in the same order, whether it is sorted before or after. -/
theorem filter_mergeSort (distinct : ∀ a ∈ xs, ∀ b ∈ xs, key a = key b → a = b) (p : α → Bool) :
    (xs.mergeSort le).filter p = (xs.filter p).mergeSort le := by
  refine eq_mergeSort le_iff (fun a ha b hb => ?_) ((List.mergeSort_perm xs le).filter p)
    ((pairwise_mergeSort le_iff xs).filter p)
  exact distinct a (List.mem_of_mem_filter ha) b (List.mem_of_mem_filter hb)

end Sorting

/-- What the newest has least of; of equally old ones the greater identifier has less. -/
def age (createdAt : Time) (id : Int) : (Time ×ₗ Int)ᵒᵈ := .toDual (toLex (createdAt, id))

theorem age_le_age {at? at?' : Time} {id id' : Int} : age at? id ≤ age at?' id' ↔
    at?' < at? ∨ at? = at?' ∧ id' ≤ id := by
  rw [age, age, OrderDual.toDual_le_toDual, Prod.Lex.toLex_le_toLex, @eq_comm _ at?]

theorem id_of_age {at? at?' : Time} {id id' : Int} (h : age at? id = age at?' id') : id = id' :=
  congrArg (fun x => (ofLex (OrderDual.ofDual x)).2) h

namespace Store
open Catalogue
variable {s : Store}

theorem precedes_iff {field : SortField} {a b : BookId × BookRow} : precedes field a b ↔
    match field with
    | .createdAt => toLex (a.2.createdAt, a.1) ≤ toLex (b.2.createdAt, b.1)
    | .title => toLex (a.2.title, a.1) ≤ toLex (b.2.title, b.1) := by
  cases field <;> simp [precedes, Prod.Lex.toLex_le_toLex]

theorem precedes_trans {field : SortField} {a b c : BookId × BookRow} (hab : precedes field a b)
    (hbc : precedes field b c) : precedes field a c := by
  rw [precedes_iff] at hab hbc ⊢
  cases field with
  | createdAt => exact hab.trans hbc
  | title => exact hab.trans hbc

theorem precedes_total (field : SortField) (a b : BookId × BookRow) :
    precedes field a b || precedes field b a := by
  rw [Bool.or_eq_true, precedes_iff, precedes_iff]
  cases field with
  | createdAt => exact le_total _ _
  | title => exact le_total _ _

/-! The rows that are let through. -/

/-- Whether the owner's row is there and all conditions hold. -/
def passes (s : Store) (q : Search) (id : BookId) (b : BookRow) : Bool :=
  match s.users.get? b.owner with
  | none => false
  | some owner =>
    b.isLive && q.status.all (b.status == .known ·) && q.genre.all (s.isLinked id ·) &&
      q.title.all (contains · b.titleKey) && q.author.all (contains · b.authorKey) &&
      q.city.all (contains · owner.cityKey)

variable {q : Query} {status : Option Book.Status}

/-- The pattern made of the key is too long. -/
def long (key : Option String) : Bool := key.any fun k => !patternFits k

/-- At the row the search comes to a pattern that is too long: all that is tried before it holds. -/
def overruns (s : Store) (q : Search) (id : BookId) (b : BookRow) : Bool :=
  long q.title && s.passes { q with title := none, author := none, genre := none, city := none } id b ||
  long q.author && s.passes { q with author := none, genre := none, city := none } id b ||
  long q.city && s.passes { q with city := none } id b

theorem tryKey_eq (key : Option String) (text : String) : tryKey key text =
    if long key then .tooLong else .ofBool (key.all (contains · text)) := by
  cases key with
  | none => rfl
  | some k => cases hfits : patternFits k <;> simp [tryKey, long, hfits]

@[simp] theorem Trial.all_guard (tooLong p : Bool) (rest : List Trial) :
    Trial.all ((if tooLong then .tooLong else .ofBool p) :: rest) =
      if tooLong then .error (.storage .patternTooLong) else if p then Trial.all rest else .ok false := by
  cases tooLong <;> cases p <;> rfl

/-- A row whose owner's row is there fails the search, or it passes or not. -/
theorem lets_eq {b : BookRow} (known : (s.users.get? b.owner).isSome) (q : Search) (id : BookId) :
    s.lets q id b = if s.overruns q id b then .error (.storage .patternTooLong)
      else .ok (s.passes q id b) := by
  obtain ⟨owner, howner⟩ := Option.isSome_iff_exists.mp known
  simp only [lets, overruns, passes, howner, tryKey_eq, Trial.all_ofBool, Trial.all_guard, Trial.all]
  cases b.isLive <;> simp
  cases q.status.all (b.status == .known ·) <;> simp
  cases long q.title <;> simp
  cases q.title.all (contains · b.titleKey) <;> simp
  cases long q.author <;> simp
  cases q.author.all (contains · b.authorKey) <;> simp
  cases q.genre.all (s.isLinked id ·) <;> simp
  cases long q.city <;> cases q.city.all (contains · owner.cityKey) <;> simp

theorem long_key? {filter : Option String} : long (filter.bind key?) ↔
    ∃ text, filter = some text ∧ patternFits (searchKey text) = false := by
  cases filter with
  | none => simp [long]
  | some text =>
    have hblank : patternFits "" := by decide +kernel
    by_cases h : searchKey text = "" <;> simp [long, key?, h, hblank]

theorem overruns_of_fits (fits : q.Fits) (id : BookId) (b : BookRow) :
    s.overruns (q.search status) id b = false := by
  have hkey : ∀ {filter : Option String},
      (∀ text, filter = some text → patternFits (searchKey text)) → long (filter.bind key?) = false := by
    intro filter hfits
    rw [Bool.eq_false_iff, ne_eq, long_key?]
    intro h
    obtain ⟨text, htext, hlong⟩ := h
    simp [hfits text htext] at hlong
  have htitle := hkey fun text h => fits text (.inl h)
  have hauthor := hkey fun text h => fits text (.inr (.inl h))
  have hcity := hkey fun text h => fits text (.inr (.inr h))
  simp [overruns, Query.search, htitle, hauthor, hcity]

theorem filterM_eq {α : Type} {f : α → Except Failure Bool} {p bad : α → Bool} {e : Failure}
    {xs : List α} (h : ∀ x ∈ xs, f x = if bad x then .error e else .ok (p x)) :
    xs.filterM f = if xs.any bad then .error e else .ok (xs.filter p) := by
  have haux (acc : List α) : xs.filterAuxM f acc =
      if xs.any bad then .error e else .ok ((xs.filter p).reverse ++ acc) := by
    induction xs generalizing acc with
    | nil => rfl
    | cons x xs ih =>
      have hx := h x List.mem_cons_self
      have hxs := ih fun y hy => h y (List.mem_cons_of_mem _ hy)
      cases hbad : bad x <;> cases hp : p x <;>
        simp [List.filterAuxM, hx, hbad, hp, hxs, bind, Except.bind]
  rw [List.filterM, haux]
  split <;> simp [bind, Except.bind, pure, Except.pure]

/-- A search fails if it comes to a pattern that is too long at any row. -/
theorem matching_cases (keyed : s.Keyed) (q : Search) : s.matching q =
    if s.books.entries.any fun r => s.overruns q r.1 r.2 then .error (.storage .patternTooLong)
    else .ok (s.books.entries.filter fun r => s.passes q r.1 r.2) :=
  filterM_eq fun r hr => lets_eq (keyed.books r.1 r.2 (Table.mem_entries.mp hr)).2 q r.1

/-! The rows as books. -/

/-- The book of a row whose status can be read. -/
def bookOf (s : Store) (r : BookId × BookRow) : Book :=
  { (r.2.view r.1).toOption.getD default with genres := s.genresOf r.1 }

theorem bookOf_eq {id : BookId} {row : BookRow} {status : Book.Status}
    (h : row.status = .known status) : s.bookOf (id, row) =
      ⟨id, row.title, row.author, row.description, row.summary, status, row.owner, row.createdAt,
        row.updatedAt, s.genresOf id⟩ := by
  simp [bookOf, BookRow.view, h, Stored.decode, bind, Except.bind, pure, Except.pure,
    Except.toOption]

theorem bookOf_id {id : BookId} {row : BookRow} (sound : row.Sound) :
    (s.bookOf (id, row)).id = id := by
  obtain ⟨status, hstatus⟩ := sound.status
  rw [bookOf_eq hstatus]

theorem book?_eq_bookOf {id : BookId} {row : BookRow} (h : s.liveBook? id = some row)
    (sound : row.Sound) : s.book? id = .ok (some (s.bookOf (id, row))) := by
  obtain ⟨status, hstatus⟩ := sound.status
  rw [book?_of_some h, bookOf_eq hstatus]
  simp [BookRow.view, hstatus, Stored.decode, bind, Except.bind, pure, Except.pure, Except.map]

theorem view_eq {row : BookRow} (sound : row.Sound) (id : BookId) :
    row.view id = .ok ((row.view id).toOption.getD default) := by
  obtain ⟨status, hstatus⟩ := sound.status
  simp [BookRow.view, hstatus, Stored.decode, bind, Except.bind, pure, Except.pure, Except.toOption]

theorem mapM_ok {α β : Type} {f : α → Except Failure β} {g : α → β} {xs : List α}
    (h : ∀ x ∈ xs, f x = .ok (g x)) : xs.mapM f = .ok (xs.map g) := by
  induction xs with
  | nil => rfl
  | cons x xs ih =>
    have hx := h x List.mem_cons_self
    have hxs := ih fun y hy => h y (List.mem_cons_of_mem _ hy)
    simp [List.mapM_cons, hx, hxs, bind, Except.bind, pure, Except.pure]

/-- Rows that can be read are read as long as they are not too many. -/
theorem hydrate_of_sound (s : Store) {rows : List (BookId × BookRow)}
    (sound : ∀ r ∈ rows, r.2.Sound) : s.hydrate rows =
      if variableLimit < rows.length then .error (.storage .tooManyVariables)
      else .ok (rows.map s.bookOf) := by
  have hviews : rows.mapM (fun r => r.2.view r.1) =
      .ok (rows.map fun r => (r.2.view r.1).toOption.getD default) :=
    mapM_ok fun r hr => view_eq (sound r hr) r.1
  have hbooks : rows.map s.bookOf = (rows.map fun r => (r.2.view r.1).toOption.getD default).map
      fun b => { b with genres := s.genresOf b.id } := by
    rw [List.map_map]
    refine List.map_congr_left fun r hr => ?_
    obtain ⟨status, hstatus⟩ := (sound r hr).status
    simp [bookOf, BookRow.view, hstatus, Stored.decode, bind, Except.bind, pure, Except.pure,
      Except.toOption]
  rw [hbooks]
  change (rows.mapM (fun r => r.2.view r.1) >>= _) = _
  simp only [hviews, bind, Except.bind, List.length_map]
  split <;> rfl

theorem hydrate_eq (s : Store) {rows : List (BookId × BookRow)} (sound : ∀ r ∈ rows, r.2.Sound)
    (few : rows.length ≤ variableLimit) : s.hydrate rows = .ok (rows.map s.bookOf) := by
  rw [hydrate_of_sound s sound, if_neg (Nat.not_lt.mpr few)]

/-- The rows of an owner's live books, all of them or those with one status. -/
def shelf (s : Store) (owner : UserId) (status : Option Book.Status) : List (BookId × BookRow) :=
  s.books.entries.filter fun (_, b) =>
    b.isLive && b.owner == owner && status.all (b.status == .known ·)

theorem booksOf_eq (keyed : s.Keyed) (owner : UserId) (status : Option Book.Status) :
    s.booksOf owner status =
      if variableLimit < (s.shelf owner status).length then .error (.storage .tooManyVariables)
      else .ok (((s.shelf owner status).mergeSort newestFirst).map s.bookOf) := by
  have hsound : ∀ r ∈ (s.shelf owner status).mergeSort newestFirst, r.2.Sound := by
    intro r hr
    have hmem := (List.mem_filter.mp (List.mem_mergeSort.mp hr)).1
    exact (keyed.books _ _ (Table.mem_entries.mp hmem)).1
  have hread := s.hydrate_of_sound hsound
  rw [List.length_mergeSort] at hread
  exact hread

/-! The listing. -/

/-- The rows that pass, in their order. -/
def ranked (s : Store) (search : Search) : List (BookId × BookRow) :=
  sorted search (s.books.entries.filter fun r => s.passes search r.1 r.2)

def listing (s : Store) (search : Search) : List Book := (s.ranked search).map s.bookOf

theorem mem_ranked {search : Search} {r : BookId × BookRow} : r ∈ s.ranked search ↔
    s.books.get? r.1 = some r.2 ∧ s.passes search r.1 r.2 := by
  rw [ranked, sorted, List.mem_mergeSort, List.mem_filter, Table.mem_entries]

/-- Of any two rows the first precedes the second, and they are not the same. -/
theorem pairwise_ranked (s : Store) (search : Search) : (s.ranked search).Pairwise fun r r' =>
    r.1 ≠ r'.1 ∧ (match search.sortOrder with
      | .ascending => precedes search.sortField r r'
      | .descending => precedes search.sortField r' r) = true := by
  refine .and ?_ (List.pairwise_mergeSort ?_ ?_ _)
  · have hne : s.books.entries.Pairwise (·.1 ≠ ·.1) :=
      s.books.pairwise_entries.imp fun h => Int.ne_of_lt h
    exact ((hne.filter _).perm (List.mergeSort_perm _ _).symm) fun h => h.symm
  · intro a b c hab hbc
    cases ho : search.sortOrder <;> simp only [ho] at hab hbc ⊢
    · exact precedes_trans hab hbc
    · exact precedes_trans hbc hab
  · intro a b
    cases search.sortOrder with
    | ascending => exact precedes_total _ a b
    | descending => exact precedes_total _ b a

theorem before_of_precedes {field : SortField} {r r' : BookId × BookRow} (sound : r.2.Sound)
    (sound' : r'.2.Sound) (hne : r.1 ≠ r'.1) (h : precedes field r r') :
    field.Before (s.bookOf r) (s.bookOf r') := by
  obtain ⟨status, hstatus⟩ := sound.status
  obtain ⟨status', hstatus'⟩ := sound'.status
  rw [bookOf_eq hstatus, bookOf_eq hstatus']
  cases field with
  | createdAt =>
    simp only [precedes, Bool.or_eq_true, decide_eq_true_eq, Bool.and_eq_true, beq_iff_eq] at h
    exact h.imp_right fun hsame => ⟨hsame.1, lt_of_le_of_ne hsame.2 hne⟩
  | title =>
    simp only [precedes, Bool.or_eq_true, decide_eq_true_eq, Bool.and_eq_true, beq_iff_eq] at h
    rw [SortField.Before, encodeUtf8_lt_iff]
    exact h.imp_right fun hsame => ⟨hsame.1, lt_of_le_of_ne hsame.2 hne⟩

theorem passes_iff (keyed : s.Keyed) (asked : q.askedStatus = .ok status) {id : BookId}
    {row : BookRow} (found : s.books.get? id = some row) : s.passes (q.search status) id row ↔
      row.isLive ∧ q.Selects FoundIn s (s.bookOf (id, row)) := by
  obtain ⟨sound, howner⟩ := keyed.books id row found
  obtain ⟨owner, howner⟩ := Option.isSome_iff_exists.mp howner
  obtain ⟨actual, hactual⟩ := sound.status
  have hcity := keyed.users _ owner howner
  have hstatus := q.all_askedStatus asked actual
  have hknown : status.all (row.status == .known ·) ↔
      ∀ named, status = some named → actual = named := by
    cases status <;> simp [hactual]
  have hgenre : q.genre.all (s.isLinked id ·) ↔
      ∀ genre, q.genre = some genre → (id, genre) ∈ s.links := by
    cases q.genre <;> simp [isLinked]
  rw [bookOf_eq hactual, passes, howner]
  simp only [Query.search, Bool.and_eq_true, all_key?_iff, contains_iff, sound.title, sound.author,
    hcity, hknown, hstatus, hgenre]
  constructor
  · intro h
    obtain ⟨⟨⟨⟨⟨live, hstatus⟩, hgenre⟩, htitle⟩, hauthor⟩, hcity⟩ := h
    exact ⟨live, htitle, hauthor, fun text ht hblank => ⟨owner, howner, hcity text ht hblank⟩,
      hstatus, hgenre⟩
  · intro h
    obtain ⟨live, htitle, hauthor, hcity, hstatus, hgenre⟩ := h
    refine ⟨⟨⟨⟨⟨live, hstatus⟩, hgenre⟩, htitle⟩, hauthor⟩, fun text ht hblank => ?_⟩
    obtain ⟨owner', howner', hfound⟩ := hcity text ht hblank
    cases howner.symm.trans howner'
    exact hfound

/-- The search answers with a page of the listing, unless it comes to a pattern that is too long. -/
theorem search_cases (keyed : s.Keyed) (q : Query) (status : Option Book.Status) :
    s.search (q.search status) =
      if s.books.entries.any fun r => s.overruns (q.search status) r.1 r.2 then
        .error (.storage .patternTooLong)
      else .ok (((s.listing (q.search status)).drop (q.search status).offset).take
        (q.search status).limit, (s.listing (q.search status)).length) := by
  have hsound : ∀ r ∈ ((s.ranked (q.search status)).drop (q.search status).offset).take
      (q.search status).limit, r.2.Sound := by
    intro r hr
    obtain ⟨found, -⟩ := mem_ranked.mp (List.mem_of_mem_drop (List.mem_of_mem_take hr))
    exact (keyed.books r.1 r.2 found).1
  have hlimit : (q.search status).limit ≤ variableLimit :=
    (Nat.min_le_right _ greatestLimit).trans (by decide)
  have hbooks := s.hydrate_eq hsound ((List.length_take_le _ _).trans hlimit)
  have hlength : (s.listing (q.search status)).length =
      (s.books.entries.filter fun r => s.passes (q.search status) r.1 r.2).length := by
    rw [listing, List.length_map, ranked, sorted, List.length_mergeSort]
  rw [ranked] at hbooks
  simp only [search, matching_cases keyed]
  split
  · rfl
  · simp only [bind, Except.bind, pure, Except.pure, hbooks, hlength]
    rw [listing, ranked, List.map_take, List.map_drop]

theorem search_eq (keyed : s.Keyed) (fits : q.Fits) : s.search (q.search status) =
    .ok (((s.listing (q.search status)).drop (q.search status).offset).take (q.search status).limit,
      (s.listing (q.search status)).length) := by
  simp [search_cases keyed, overruns_of_fits fits]

theorem lists_listing (keyed : s.Keyed) (asked : q.askedStatus = .ok status) :
    q.Lists FoundIn s (s.listing (q.search status)) := by
  constructor
  · intro b
    rw [listing, List.mem_map]
    constructor
    · intro h
      obtain ⟨⟨id, row⟩, hr, rfl⟩ := h
      obtain ⟨found, hpass⟩ := mem_ranked.mp hr
      obtain ⟨live, hselects⟩ := (passes_iff keyed asked found).mp hpass
      obtain ⟨hsound, -⟩ := keyed.books id row found
      rw [bookOf_id hsound]
      exact ⟨book?_eq_bookOf (liveBook?_eq_some.mpr ⟨found, live⟩) hsound, hselects⟩
    · intro h
      obtain ⟨hbook, hselects⟩ := h
      obtain ⟨row, actual, hrow, -⟩ := exists_book?.mp ⟨b, hbook⟩
      obtain ⟨found, live⟩ := liveBook?_eq_some.mp hrow
      have hb : s.bookOf (b.id, row) = b := by
        have h := book?_eq_bookOf hrow (keyed.books b.id row found).1
        rw [hbook, Except.ok.injEq, Option.some.injEq] at h
        exact h.symm
      refine ⟨(b.id, row), mem_ranked.mpr ⟨found, ?_⟩, hb⟩
      exact (passes_iff keyed asked found).mpr ⟨live, by rwa [hb]⟩
  · rw [listing, List.pairwise_map]
    refine (pairwise_ranked s _).imp_of_mem fun {r r'} hr hr' h => ?_
    obtain ⟨hne, hprecedes⟩ := h
    have hsound := (keyed.books r.1 r.2 (mem_ranked.mp hr).1).1
    have hsound' := (keyed.books r'.1 r'.2 (mem_ranked.mp hr').1).1
    cases ho : q.order <;> simp only [Query.search, Query.Before, ho] at hprecedes ⊢
    · exact before_of_precedes hsound hsound' hne hprecedes
    · exact before_of_precedes hsound' hsound hne.symm hprecedes

end Store

namespace Market
open Catalogue Call
variable {allowed : List Store → Command → Prop} {log : List Event} {s : Store} {q : Query}
  {status : Option Book.Status}

/-- The search answers with the page of the listing that is asked for. -/
theorem answer_searchBooks (keyed : s.Keyed) (fits : q.Fits) (asked : q.askedStatus = .ok status)
    (summarize : String → String) : (Command.service summarize (.searchBooks q)).answer s =
      .ok (.page (q.pageAt (s.listing (q.search status)) q.number)) := by
  have hnormal : q.normalize = .ok (q.search status) := Query.normalize_eq_ok.mpr ⟨_, asked, rfl⟩
  have hpage : Page.of (((s.listing (q.search status)).drop (q.search status).offset).take
      (q.search status).limit) (q.search status) (s.listing (q.search status)).length =
        q.pageAt (s.listing (q.search status)) q.number := Query.pageAt_eq rfl rfl
  have hrun : outcome (perform summarize (.searchBooks q)) s =
      (.ok (.page (q.pageAt (s.listing (q.search status)) q.number)), s) := by
    simp [perform, searchBooks, outcome_map, outcome_bind, hnormal, Store.search_eq keyed fits,
      hpage]
  exact congrArg Prod.fst hrun

theorem pages_of_lists {L : List Book} (h : q.Lists FoundIn s L) (keyed : s.Keyed)
    (fits : q.Fits) (asked : q.askedStatus = .ok status) : q.Pages s L where
  answers summarize page := by
    have hfits : { q with page }.Fits := fits
    have hasked : { q with page }.askedStatus = .ok status := asked
    rw [(h.withPage page).unique (Store.lists_listing keyed hasked)]
    exact answer_searchBooks keyed hfits hasked summarize
  whole := q.pages_whole L
  beyond _ := Query.pageAt_beyond
  bounded _ _ := Query.offset_lt

/-- A search whose patterns are not too long answers, page by page, with the live books that all its
filters let through, in the order asked for and each once; the other order is the reverse. A filter
lets through the texts whose key has the filter's key in it, for texts without a NUL or U+FFFE or
U+FFFF. -/
theorem Run.search_exact (run : Run allowed .fresh log s) {search : Search}
    (normal : q.normalize = .ok search) (fits : q.Fits) :
    ∃ L, q.Lists FoundIn s L ∧
      ((∀ b, s.book? b.id = .ok (some b) → q.PlainFor s b) → q.Lists PartOf s L) ∧ q.Pages s L ∧
      ∀ order, { q with sortOrder := order }.order ≠ q.order →
        { q with sortOrder := order }.Pages s L.reverse := by
  obtain ⟨status, asked, -⟩ := Query.normalize_eq_ok.mp normal
  have hlists := Store.lists_listing run.keyed asked
  refine ⟨_, hlists, fun hplain => ⟨fun b => ?_, hlists.ordered⟩, ?_, fun order turned => ?_⟩
  · rw [hlists.members]
    exact and_congr_right fun hb => (hplain b hb).selects_iff
  · exact pages_of_lists hlists run.keyed fits asked
  · have hfits : { q with sortOrder := order }.Fits := fits
    have hasked : { q with sortOrder := order }.askedStatus = .ok status := asked
    exact pages_of_lists (hlists.reverse turned) run.keyed hfits hasked

/-- The books with "une" in their titles, after two users have listed one each. -/
theorem Run.search_exact_opening :
    Query.normalize { title := some " UNE" } = .ok (Query.search { title := some " UNE" } none) ∧
      Query.Fits { title := some " UNE" } ∧
        ∃ L, Query.Lists FoundIn { title := some " UNE" } (follow .fresh opening).2 L ∧
          Query.Pages { title := some " UNE" } (follow .fresh opening).2 L := by
  have normal : Query.normalize { title := some " UNE" } =
      .ok (Query.search { title := some " UNE" } none) := rfl
  have fits : Query.Fits { title := some " UNE" } := by
    intro text htext
    obtain h | h | h := htext <;> cases h
    decide +kernel
  obtain ⟨L, hlists, -, hpages, -⟩ := Run.search_exact run_opening normal fits
  exact ⟨normal, fits, L, hlists, hpages⟩

/-- A user lists one book, with the title. -/
def shelving (title : String) : List Command :=
  [.service id (.createUser ⟨"Ana", "ana@example.org", "Porto", ""⟩),
    .service id (.createBook 1 ⟨title, "Herbert", "", some "sand", []⟩)]

/-- The store in which it is. -/
def shelf (title : String) : Store := (follow .fresh (shelving title)).2

/-- The book, as the store shows it. -/
def shelved (title : String) : Book := ⟨1, title, "Herbert", "", "sand", .available, 1, 1, 1, []⟩

theorem run_shelf (title : String) :
    Run (fun _ => Command.IsService) .fresh (follow .fresh (shelving title)).1 (shelf title) :=
  run_services .fresh (shelving title) (by simp [shelving, Command.IsService])

/-- A title with a replacement character is found by a noncharacter, which is no piece of it. -/
theorem noncharacter_mistaken : ∃ log s search L, Run (fun _ => Command.IsService) .fresh log s ∧
    Query.normalize { title := some "\uFFFF" } = .ok search ∧ Query.Fits { title := some "\uFFFF" } ∧
      Query.Lists PartOf { title := some "\uFFFF" } s L ∧
        ¬ Query.Pages { title := some "\uFFFF" } s L := by
  have fits : Query.Fits { title := some "\uFFFF" } := by
    intro text htext
    obtain h | h | h := htext <;> cases h
    decide +kernel
  have hbook : (shelf "\uFFFD").book? 1 = .ok (some (shelved "\uFFFD")) := by decide +kernel
  have honly : ∀ r ∈ (shelf "\uFFFD").books.entries, r.1 = 1 := by decide +kernel
  have nonblank : trim "\uFFFF" ≠ "" := by decide +kernel
  have hpart : ¬ (searchKey "\uFFFF").toList <:+: (searchKey "\uFFFD").toList := by decide +kernel
  refine ⟨_, _, _, [], run_shelf "\uFFFD", rfl, fits, ⟨fun b => ?_, .nil⟩, fun hpages => ?_⟩
  · have hnone : ¬ ((shelf "\uFFFD").book? b.id = .ok (some b) ∧
        Query.Selects PartOf { title := some "\uFFFF" } (shelf "\uFFFD") b) := by
      intro h
      obtain ⟨hb, hselects⟩ := h
      obtain ⟨row, -, hrow, -⟩ := Store.exists_book?.mp ⟨b, hb⟩
      have hid : b.id = 1 :=
        honly (b.id, row) (Table.mem_entries.mpr (Store.liveBook?_eq_some.mp hrow).1)
      rw [hid, hbook, Except.ok.injEq, Option.some.injEq] at hb
      have htitle := hselects.title "\uFFFF" rfl nonblank
      rw [← hb] at htitle
      exact hpart htitle
    simp [hnone]
  · have hanswer : (Command.service id (.searchBooks { title := some "\uFFFF" })).answer
        (shelf "\uFFFD") = .ok (.page ⟨[shelved "\uFFFD"], 1, 10, 1, 1⟩) := by decide +kernel
    have hpage := hpages.answers id none
    rw [hanswer] at hpage
    revert hpage
    decide +kernel

end Market

end BookExchange
