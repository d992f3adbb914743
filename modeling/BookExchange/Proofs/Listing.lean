import BookExchange.Market.Command
import BookExchange.Proofs.ByteOrder
import BookExchange.Proofs.Folding
import Mathlib.Algebra.Order.Floor.Div
import Mathlib.Data.List.Sort
import Mathlib.Data.Prod.Lex
import Mathlib.Data.String.Basic

/-! The listing that a query asks for: the live books that every filter lets through, in an order in
which no two books stand level, and its pages. -/
namespace BookExchange
open Text

theorem Book.Status.name_inj {a b : Book.Status} : a.name = b.name ↔ a = b := by
  cases a <;> cases b <;> simp [name]

namespace Catalogue

def Query.field (q : Query) : SortField := (q.sortField.map .ofName).getD .createdAt

def Query.order (q : Query) : SortOrder := (q.sortOrder.map .ofName).getD .descending

/-- The one book comes before the other in ascending order. -/
def SortField.Before (field : SortField) (a b : Book) : Prop :=
  match field with
  | .createdAt => a.createdAt < b.createdAt ∨ a.createdAt = b.createdAt ∧ a.id < b.id
  | .title => encodeUtf8 a.title < encodeUtf8 b.title ∨ a.title = b.title ∧ a.id < b.id

/-- The one book comes before the other in the order that is asked for. -/
def Query.Before (q : Query) (a b : Book) : Prop :=
  match q.order with
  | .ascending => q.field.Before a b
  | .descending => q.field.Before b a

/-- Every filter of the query that is not blank lets the book through; `found` says when the text of
a filter is in a text of the book. -/
structure Query.Selects (found : String → String → Prop) (q : Query) (s : Store) (b : Book) :
    Prop where
  title : ∀ text, q.title = some text → trim text ≠ "" → found text b.title
  author : ∀ text, q.author = some text → trim text ≠ "" → found text b.author
  city : ∀ text, q.city = some text → trim text ≠ "" →
    ∃ owner, s.users.get? b.owner = some owner ∧ found text owner.city
  status : ∀ text, q.status = some text → trim text ≠ "" → b.status.name = searchKey text
  genre : ∀ genre, q.genre = some genre → (b.id, genre) ∈ s.links

/-- The list holds the live books that the query selects, in the order that it asks for. -/
structure Query.Lists (found : String → String → Prop) (q : Query) (s : Store) (L : List Book) :
    Prop where
  members : ∀ b, b ∈ L ↔ s.book? b.id = .ok (some b) ∧ q.Selects found s b
  ordered : L.Pairwise q.Before

/-- The patterns made of its texts are not too long. -/
def Query.Fits (q : Query) : Prop :=
  ∀ text, q.title = some text ∨ q.author = some text ∨ q.city = some text →
    patternFits (searchKey text)

/-- The texts that the filters are compared with are plain, and so are the filters. -/
structure Query.PlainFor (q : Query) (s : Store) (b : Book) : Prop where
  title : ∀ text, q.title = some text → Plain text ∧ Plain b.title
  author : ∀ text, q.author = some text → Plain text ∧ Plain b.author
  city : ∀ text, q.city = some text → Plain text ∧
    ∀ owner, s.users.get? b.owner = some owner → Plain owner.city

/-- The number of the page that is asked for. -/
def Query.number (q : Query) : Nat := (q.page.filter (0 < ·)).getD defaultPage

/-- How many books there are on a page. -/
def Query.size (q : Query) : Nat := min ((q.limit.filter (0 < ·)).getD defaultLimit) greatestLimit

/-- A page of the list. -/
def Query.pageAt (q : Query) (L : List Book) (number : Nat) : Page where
  data := (L.drop ((number - 1) * q.size)).take q.size
  page := number
  limit := q.size
  total := L.length
  totalPages := (L.length ⌈/⌉ q.size : Nat)

/-- The answers to the query, for all the pages that can be asked for, are the pages of the list. -/
structure Query.Pages (q : Query) (s : Store) (L : List Book) : Prop where
  answers : ∀ summarize page,
    (Market.Command.service summarize (.searchBooks { q with page })).answer s =
      .ok (.page (q.pageAt L { q with page }.number))
  whole : (List.range (L.length ⌈/⌉ q.size)).flatMap (fun i => (q.pageAt L (i + 1)).data) = L
  beyond : ∀ number, L.length ⌈/⌉ q.size < number → (q.pageAt L number).data = []
  bounded : ∀ page search, page < 2 ^ 32 → { q with page := some page }.normalize = .ok search →
    search.offset < 2 ^ 63

/-! The order. -/

theorem SortField.Before.asymm {field : SortField} {a b : Book} (h : field.Before a b) :
    ¬ field.Before b a := by
  cases field with
  | createdAt =>
    have hlex : toLex (a.createdAt, a.id) < toLex (b.createdAt, b.id) :=
      Prod.Lex.toLex_lt_toLex.mpr h
    exact fun h' => lt_asymm hlex (Prod.Lex.toLex_lt_toLex.mpr h')
  | title =>
    simp only [Before, encodeUtf8_lt_iff] at h ⊢
    have hlex : toLex (a.title, a.id) < toLex (b.title, b.id) := Prod.Lex.toLex_lt_toLex.mpr h
    exact fun h' => lt_asymm hlex (Prod.Lex.toLex_lt_toLex.mpr h')

theorem Query.Before.asymm {q : Query} {a b : Book} (h : q.Before a b) : ¬ q.Before b a := by
  cases ho : q.order <;> simp only [Query.Before, ho] at h ⊢
  · exact h.asymm
  · exact h.asymm

variable {found : String → String → Prop} {q : Query} {s : Store} {L L' : List Book}

/-- There is one such list only. -/
theorem Query.Lists.unique (h : q.Lists found s L) (h' : q.Lists found s L') : L = L' := by
  have hirrefl : Std.Irrefl q.Before := ⟨fun a ha => ha.asymm ha⟩
  have hantisymm : Std.Antisymm q.Before := ⟨fun a b hab hba => absurd hba hab.asymm⟩
  exact h.ordered.eq_of_mem_iff h'.ordered fun b => (h.members b).trans (h'.members b).symm

theorem Query.selects_with {page : Option Nat} {order : Option String} {b : Book} :
    { q with page, sortOrder := order }.Selects found s b ↔ q.Selects found s b :=
  ⟨fun h => ⟨h.title, h.author, h.city, h.status, h.genre⟩,
    fun h => ⟨h.title, h.author, h.city, h.status, h.genre⟩⟩

/-- It is the same for every page. -/
theorem Query.Lists.withPage (h : q.Lists found s L) (page : Option Nat) :
    { q with page }.Lists found s L :=
  ⟨fun b => (h.members b).trans (and_congr_right fun _ => selects_with.symm), h.ordered⟩

/-- The other way round the order, it is the reverse list. -/
theorem Query.Lists.reverse (h : q.Lists found s L) {order : Option String}
    (turned : { q with sortOrder := order }.order ≠ q.order) :
    { q with sortOrder := order }.Lists found s L.reverse := by
  constructor
  · intro b
    rw [List.mem_reverse, h.members]
    exact and_congr_right fun _ => selects_with.symm
  · rw [List.pairwise_reverse]
    refine h.ordered.imp fun {a b} hab => ?_
    have hfield : { q with sortOrder := order }.field = q.field := rfl
    cases ho : q.order <;> cases ho' : { q with sortOrder := order }.order <;>
      simp only [ho, ho', ne_eq, not_true_eq_false] at turned <;>
      simpa only [Query.Before, ho, ho', hfield] using hab

theorem Query.PlainFor.imp {found found' : String → String → Prop} {b : Book} (h : q.PlainFor s b)
    (himp : ∀ text whole, Plain text → Plain whole → found text whole → found' text whole)
    (hb : q.Selects found s b) : q.Selects found' s b := by
  refine ⟨fun text ht hblank => ?_, fun text ht hblank => ?_, fun text ht hblank => ?_, hb.status,
    hb.genre⟩
  · obtain ⟨htext, htitle⟩ := h.title text ht
    exact himp _ _ htext htitle (hb.title text ht hblank)
  · obtain ⟨htext, hauthor⟩ := h.author text ht
    exact himp _ _ htext hauthor (hb.author text ht hblank)
  · obtain ⟨htext, hcity⟩ := h.city text ht
    obtain ⟨owner, howner, hfound⟩ := hb.city text ht hblank
    exact ⟨owner, howner, himp _ _ htext (hcity owner howner) hfound⟩

/-- Plain texts are compared by their keys alone. -/
theorem Query.PlainFor.selects_iff {b : Book} (h : q.PlainFor s b) :
    q.Selects FoundIn s b ↔ q.Selects PartOf s b :=
  ⟨h.imp fun _ _ htext hwhole => (htext.foundIn_iff hwhole).mp,
    h.imp fun _ _ htext hwhole => (htext.foundIn_iff hwhole).mpr⟩

/-! The pages. -/

theorem getD_filter_pos {asked : Option Nat} {default : Nat} (h : 0 < default) :
    0 < (asked.filter (0 < ·)).getD default := by
  cases ha : asked.filter (0 < ·) with
  | none => exact h
  | some n => simpa using (Option.filter_eq_some_iff.mp ha).2

theorem Query.size_pos (q : Query) : 0 < q.size :=
  Nat.lt_min.mpr ⟨getD_filter_pos (by decide), by decide⟩

/-- The pages that are counted hold all the books. -/
theorem Query.length_le (q : Query) (L : List Book) : L.length ≤ (L.length ⌈/⌉ q.size) * q.size := by
  have h := le_smul_ceilDiv (b := L.length) q.size_pos
  rwa [smul_eq_mul, Nat.mul_comm] at h

theorem take_eq_flatMap_range (L : List Book) (width count : Nat) : L.take (count * width) =
    (List.range count).flatMap fun i => (L.drop (i * width)).take width := by
  induction count with
  | zero => simp
  | succ count ih =>
    rw [Nat.succ_mul, List.take_add, ih, List.range_succ, List.flatMap_append]
    simp

theorem Query.pages_whole (q : Query) (L : List Book) :
    (List.range (L.length ⌈/⌉ q.size)).flatMap (fun i => (q.pageAt L (i + 1)).data) = L := by
  have htake := take_eq_flatMap_range L q.size (L.length ⌈/⌉ q.size)
  rw [List.take_of_length_le (q.length_le L)] at htake
  exact htake.symm

theorem Query.pageAt_beyond {number : Nat} (h : L.length ⌈/⌉ q.size < number) :
    (q.pageAt L number).data = [] := by
  have hbefore : L.length ≤ (number - 1) * q.size :=
    (q.length_le L).trans (Nat.mul_le_mul_right _ (by omega))
  simp [pageAt, List.drop_eq_nil_of_le hbefore]

/-- The quotient that a search answers with is the number of pages. -/
theorem Query.pageAt_eq {search : Search} (hpage : search.page = q.number)
    (hlimit : search.limit = q.size) :
    Page.of ((L.drop search.offset).take search.limit) search L.length = q.pageAt L q.number := by
  have hpos := q.size_pos
  have hpages : ((L.length : Int) + q.size - 1).tdiv q.size = (L.length ⌈/⌉ q.size : Nat) := by
    rw [Nat.ceilDiv_eq_add_pred_div, Int.tdiv_eq_ediv_of_nonneg (by omega)]
    have hcast : (L.length : Int) + q.size - 1 = (L.length + q.size - 1 : Nat) := by omega
    rw [hcast, Int.natCast_ediv]
  simp only [Page.of, pageAt, Search.offset, hpage, hlimit, hpages]

/-! What a query comes to. -/

/-- The status that the query names. -/
def Query.askedStatus (q : Query) : Except Failure (Option Book.Status) :=
  match q.status.bind key? with
  | none => .ok none
  | some name => match Book.Status.ofName? name with
    | some status => .ok (some status)
    | none => .error (.unknownStatus name)

/-- The search for books of the status. -/
def Query.search (q : Query) (status : Option Book.Status) : Search where
  title := q.title.bind key?
  author := q.author.bind key?
  status
  city := q.city.bind key?
  genre := q.genre
  page := q.number
  limit := q.size
  sortField := q.field
  sortOrder := q.order

theorem Query.normalize_eq : q.normalize = q.askedStatus.map q.search := by
  rw [normalize, askedStatus]
  cases q.status.bind key? with
  | none => rfl
  | some name => cases h : Book.Status.ofName? name <;> simp only [h] <;> rfl

theorem Query.normalize_eq_ok {asked : Search} : q.normalize = .ok asked ↔
    ∃ status, q.askedStatus = .ok status ∧ asked = q.search status := by
  rw [normalize_eq]
  cases q.askedStatus <;> simp [Except.map, @eq_comm _ asked]

theorem Query.offset_lt {page : Nat} {search : Search} (hpage : page < 2 ^ 32)
    (normal : { q with page := some page }.normalize = .ok search) : search.offset < 2 ^ 63 := by
  obtain ⟨status, -, rfl⟩ := Query.normalize_eq_ok.mp normal
  have hnumber : { q with page := some page }.number < 2 ^ 32 := by
    by_cases h : 0 < page
    · simpa [number, Option.filter, h] using hpage
    · simp [number, Option.filter, h, defaultPage]
  have hsize : q.size ≤ 100 := Nat.min_le_right _ greatestLimit
  calc ({ q with page := some page }.number - 1) * q.size
      ≤ 2 ^ 32 * 100 := Nat.mul_le_mul (by omega) hsize
    _ < 2 ^ 63 := by decide

theorem all_key?_iff {filter : Option String} {p : String → Bool} : (filter.bind key?).all p ↔
    ∀ text, filter = some text → trim text ≠ "" → p (searchKey text) := by
  cases filter with
  | none => simp
  | some text => by_cases h : trim text = "" <;> simp [key?, h, searchKey_eq_empty]

theorem ofName?_eq_some {name : String} {status : Book.Status} :
    Book.Status.ofName? name = some status ↔ status.name = name := by
  by_cases available : Book.Status.available.name = name
  · subst available
    cases status <;> simp [Book.Status.ofName?, Book.Status.name]
  · by_cases reserved : Book.Status.reserved.name = name
    · subst reserved
      cases status <;> simp [Book.Status.ofName?, Book.Status.name]
    · cases status <;> simp [Book.Status.ofName?, available, reserved]

theorem Query.all_askedStatus {status : Option Book.Status} (asked : q.askedStatus = .ok status)
    (actual : Book.Status) : (∀ named, status = some named → actual = named) ↔
      ∀ text, q.status = some text → trim text ≠ "" → actual.name = searchKey text := by
  have hkey : (q.status.bind key?).all (fun name => actual.name == name) ↔
      ∀ text, q.status = some text → trim text ≠ "" → (actual.name == searchKey text) :=
    all_key?_iff
  simp only [beq_iff_eq] at hkey
  rw [← hkey]
  rw [askedStatus] at asked
  cases hname : q.status.bind key? with
  | none =>
    simp only [hname, Except.ok.injEq] at asked
    simp [← asked]
  | some name =>
    cases hstatus : Book.Status.ofName? name with
    | none => simp [hname, hstatus] at asked
    | some named =>
      simp only [hname, hstatus, Except.ok.injEq] at asked
      rw [ofName?_eq_some] at hstatus
      subst hstatus
      simp [← asked, Book.Status.name_inj]

end Catalogue

end BookExchange
