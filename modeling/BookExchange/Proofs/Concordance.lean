import BookExchange.Proofs.Conservation
import BookExchange.Proofs.Faults
import BookExchange.Proofs.Ledger

/-! The same books are listed by searches, by owner and by city, and the same exchanges all together
and by user. The lists agree in what they hold and in the order in which they hold it. -/
namespace BookExchange
open Catalogue

/-- The owner's books among them, all or those with one status. -/
def ofOwner (owner : UserId) (status : Option Book.Status) (books : List Book) : List Book :=
  books.filter fun b => b.owner == owner && status.all (b.status == ·)

/-- The exchanges among them that name the user, all or those with one status, from the last to the
first. -/
def ofUser (u : UserId) (status : Option Exchange.Status) (exchanges : List Exchange) :
    List Exchange :=
  (exchanges.filter fun e => e.isParty u && status.all (e.status == ·)).reverse

/-- Of exchanges that are listed once each, a party has each once. -/
theorem count_ofUser {exchanges : List Exchange} {e : Exchange} (nodup : exchanges.Nodup)
    (he : e ∈ exchanges) (u : UserId) :
    (ofUser u none exchanges).count e = if e.initiator = u ∨ e.recipient = u then 1 else 0 := by
  have hnodup : (ofUser u none exchanges).Nodup := List.nodup_reverse.mpr (nodup.filter _)
  have hmem : e ∈ ofUser u none exchanges ↔ e.initiator = u ∨ e.recipient = u := by
    simp [ofUser, he, Exchange.isParty, @eq_comm _ u]
  rw [hnodup.count]
  simp only [hmem]

namespace Store
variable {s : Store} {q : Query} {status : Option Book.Status} {owner : UserId}

/-! Books. -/

theorem newestFirst_eq (a b : BookId × BookRow) : newestFirst a b = precedes .createdAt b a := by
  rw [newestFirst, precedes, BEq.comm]

/-- Where no other order is asked for, the newest come first. -/
theorem ranked_eq (field : q.field = .createdAt) (order : q.order = .descending) :
    s.ranked (q.search status) = (s.books.entries.filter fun r =>
      s.passes (q.search status) r.1 r.2).mergeSort newestFirst := by
  have hle : newestFirst = fun a b => precedes .createdAt b a :=
    funext fun a => funext fun b => newestFirst_eq a b
  rw [ranked, sorted, hle]
  simp only [Query.search, field, order]

theorem newestFirst_iff (a b : BookId × BookRow) :
    newestFirst a b ↔ age a.2.createdAt a.1 ≤ age b.2.createdAt b.1 := by
  simp [newestFirst, age_le_age]

/-- What passes of the newest is the newest of what passes. -/
theorem filter_newest (s : Store) (p p' : BookId × BookRow → Bool) :
    ((s.books.entries.filter p).mergeSort newestFirst).filter p' =
      (s.books.entries.filter fun r => p r && p' r).mergeSort newestFirst := by
  rw [filter_mergeSort newestFirst_iff ?distinct, List.filter_filter]
  · simp only [Bool.and_comm]
  case distinct =>
    intro a ha b hb hage
    exact Table.eq_of_mem_entries (List.mem_of_mem_filter ha) (List.mem_of_mem_filter hb)
      (id_of_age hage)

/-- All live books pass where nothing is asked for. -/
theorem passes_all (keyed : s.Keyed) {r : BookId × BookRow} (hr : r ∈ s.books.entries) :
    s.passes (({} : Query).search none) r.1 r.2 = r.2.isLive := by
  obtain ⟨-, howner⟩ := keyed.books r.1 r.2 (Table.mem_entries.mp hr)
  obtain ⟨row, hrow⟩ := Option.isSome_iff_exists.mp howner
  simp [passes, hrow, Query.search]

/-- An owner's shelf is what the owner has of all books. -/
theorem ofOwner_listing (keyed : s.Keyed) (owner : UserId) (status : Option Book.Status) :
    ofOwner owner status (s.listing (({} : Query).search none)) =
      ((s.shelf owner status).mergeSort newestFirst).map s.bookOf := by
  have hread : ∀ r ∈ s.ranked (({} : Query).search none),
      ((s.bookOf r).owner == owner && status.all ((s.bookOf r).status == ·)) =
        (r.2.owner == owner && status.all (r.2.status == .known ·)) := by
    intro r hr
    obtain ⟨actual, hactual⟩ := (keyed.books r.1 r.2 (mem_ranked.mp hr).1).1.status
    rw [bookOf_eq hactual, Bool.eq_iff_iff]
    cases status <;> simp [hactual]
  have hshelf : s.shelf owner status = s.books.entries.filter fun r =>
      s.passes (({} : Query).search none) r.1 r.2 &&
        (r.2.owner == owner && status.all (r.2.status == .known ·)) := by
    refine List.filter_congr fun r hr => ?_
    rw [passes_all keyed hr]
    exact Bool.and_assoc ..
  calc ofOwner owner status (s.listing (({} : Query).search none))
      = ((s.ranked (({} : Query).search none)).filter fun r =>
          (s.bookOf r).owner == owner && status.all ((s.bookOf r).status == ·)).map s.bookOf :=
        List.filter_map
    _ = ((s.shelf owner status).mergeSort newestFirst).map s.bookOf := by
        rw [List.filter_congr hread, ranked_eq rfl rfl, filter_newest, hshelf]

theorem booksOf_eq_ofOwner (keyed : s.Keyed)
    (few : (ofOwner owner status (s.listing (({} : Query).search none))).length ≤ variableLimit) :
    s.booksOf owner status = .ok (ofOwner owner status (s.listing (({} : Query).search none))) := by
  rw [ofOwner_listing keyed] at few ⊢
  rw [List.length_map, List.length_mergeSort] at few
  rw [booksOf_eq keyed, if_neg (Nat.not_lt.mpr few)]

theorem availableBooks_eq (keyed : s.Keyed) {city : Option String} (fits : (Query.ofCity city).Fits)
    (few : (s.listing ((Query.ofCity city).search (some .available))).length ≤ variableLimit) :
    s.availableBooks city = .ok (s.listing ((Query.ofCity city).search (some .available))) := by
  rw [availableBooks_cases keyed, if_neg (Nat.not_lt.mpr few), listing, ranked_eq rfl rfl]
  simp [overruns_of_fits fits]

/-! Exchanges. -/

section Dated
variable (dated : ∀ x row, s.exchanges.get? x = some row → row.Dated)
include dated

theorem exchangesOf_eq_ofUser (chronological : s.Chronological) (u : UserId)
    (status : Option Exchange.Status) :
    s.exchangesOf u status = .ok (ofUser u status (s.exchanges.entries.map exchangeOf)) := by
  have hread : ∀ r ∈ s.exchanges.entries,
      ((exchangeOf r).isParty u && status.all ((exchangeOf r).status == ·)) =
        (r.2.names u && status.all (r.2.status == .known ·)) := by
    intro r hr
    obtain ⟨actual, hactual, -⟩ := dated r.1 r.2 (Table.mem_entries.mp hr)
    rw [exchangeOf_eq hactual, Bool.eq_iff_iff]
    cases status <;> simp [hactual, Exchange.isParty, ExchangeRow.names, @eq_comm _ u]
  rw [exchangesOf_eq dated, chronological.mergeSort_involving, ofUser, List.filter_map,
    List.map_reverse]
  rw [involving, ← List.filter_congr hread]
  rfl

theorem nodup_map_exchangeOf : (s.exchanges.entries.map exchangeOf).Nodup := by
  rw [List.Nodup, List.pairwise_map]
  refine s.exchanges.pairwise_entries.imp_of_mem fun {r r'} hr hr' hlt heq => ?_
  obtain ⟨status, hs, -⟩ := dated r.1 r.2 (Table.mem_entries.mp hr)
  obtain ⟨status', hs', -⟩ := dated r'.1 r'.2 (Table.mem_entries.mp hr')
  rw [exchangeOf_eq hs, exchangeOf_eq hs', Exchange.mk.injEq] at heq
  exact absurd heq.1 hlt.ne

end Dated

end Store

namespace Market
open Call
variable {allowed : List Store → Command → Prop} {log : List Event} {s : Store}

/-- What is listed in one way is listed in the others. -/
structure Concordant (s : Store) (summarize : String → String) : Prop where
  /-- The available books of a city are all the pages of a search for them. -/
  available (city : Option String) (fits : (Query.ofCity city).Fits) :
    ∃ L, (∀ limit, { status := some "available", city, limit : Query }.Pages s L) ∧
      (L.length ≤ Store.variableLimit →
        (Command.service summarize (.availableBooks city)).answer s = .ok (.books L))
  /-- An owner's books are those that the owner has on all the pages of a search for all books. -/
  owned : ∃ L, (∀ limit, ({ limit } : Query).Pages s L) ∧
    ∀ owner status, (ofOwner owner status L).length ≤ Store.variableLimit →
      (Command.service summarize (.booksOf owner status)).answer s =
        .ok (.books (ofOwner owner status L))
  /-- A user's exchanges are those among all that name the user, the other way round. Each has two
  users, in whose lists it stands once, and stands in no other list. -/
  exchanges : ∃ L, (Command.service summarize .listExchanges).answer s = .ok (.exchanges L) ∧
    (∀ u status, (Command.service summarize (.exchangesOf u status)).answer s =
      .ok (.exchanges (ofUser u status L))) ∧
    ∀ e ∈ L, e.initiator ≠ e.recipient ∧ (s.users.get? e.initiator).isSome ∧
      (s.users.get? e.recipient).isSome ∧
      ∀ u, (ofUser u none L).count e = if e.initiator = u ∨ e.recipient = u then 1 else 0

/-- In every store that any calls have led to, one list follows from another. -/
theorem Run.listings_agree (run : Run allowed .fresh log s) (summarize : String → String) :
    Concordant s summarize := by
  have keyed := run.keyed
  have dated : ∀ x row, s.exchanges.get? x = some row → row.Dated := fun _ => run.dated
  constructor
  · intro city fits
    refine ⟨s.listing ((Query.ofCity city).search (some .available)), fun limit => ?_, fun few => ?_⟩
    · have asked : ({ status := some "available", city, limit : Query }).askedStatus =
          .ok (some .available) := Query.askedStatus_ofCity city
      exact pages_of_lists (Store.lists_listing keyed asked) keyed fits asked
    · exact Command.answer_of_read rfl (Store.availableBooks_eq keyed fits few)
  · refine ⟨s.listing (({} : Query).search none), fun limit => ?_, fun owner status few => ?_⟩
    · have asked : ({ limit } : Query).askedStatus = .ok none := rfl
      exact pages_of_lists (Store.lists_listing keyed asked) keyed (by simp [Query.Fits]) asked
    · exact Command.answer_of_read rfl (Store.booksOf_eq_ofOwner keyed few)
  · refine ⟨s.exchanges.entries.map Store.exchangeOf,
      Command.answer_of_read rfl (Store.allExchanges_eq dated), fun u status => ?_, fun e he => ?_⟩
    · exact Command.answer_of_read rfl (Store.exchangesOf_eq_ofUser dated run.chronological u status)
    · have hcount := count_ofUser (Store.nodup_map_exchangeOf dated) he
      obtain ⟨⟨x, row⟩, hr, rfl⟩ := List.mem_map.mp he
      have found := Table.mem_entries.mp hr
      obtain ⟨status, hs, -⟩ := dated x row found
      have backed := run.backed x row found
      rw [Store.exchangeOf_eq hs] at hcount ⊢
      exact ⟨run.parted x row found, backed.initiator, backed.recipient, hcount⟩

/-- One user offers a book, and the city is asked for in capitals and with a blank; two users have
swapped a book each. -/
theorem Run.listings_agree_swap :
    (∃ L, L.length = 1 ∧ (Command.service id (.availableBooks (some " PORTO"))).answer
        (shelf "Dune") = .ok (.books L)) ∧
      ∃ e, (Command.service id .listExchanges).answer (follow .fresh completion).2 =
          .ok (.exchanges [e]) ∧
        ∀ u, (Command.service id (.exchangesOf u none)).answer (follow .fresh completion).2 =
          .ok (.exchanges (ofUser u none [e])) := by
  have fits : (Query.ofCity (some " PORTO")).Fits := by
    intro text htext
    obtain h | h | h := htext <;> cases h
    decide +kernel
  obtain ⟨books, hpages, hbooks⟩ := ((run_shelf "Dune").listings_agree id).available _ fits
  obtain ⟨exchanges, hall, hof, -⟩ := (run_completion.listings_agree id).exchanges
  have hone : books.length = 1 := by
    have hanswer : (Command.service id (.searchBooks
        { status := some "available", city := some " PORTO" })).answer (shelf "Dune") =
          .ok (.page ⟨[shelved "Dune"], 1, 10, 1, 1⟩) := by decide +kernel
    have hpage := (hpages none).answers id none
    rw [hanswer, Except.ok.injEq, Answer.page.injEq] at hpage
    exact Int.ofNat_inj.mp (congrArg Catalogue.Page.total hpage).symm
  have hexchange : (Command.service id .listExchanges).answer (follow .fresh completion).2 =
      .ok (.exchanges [⟨1, 1, 2, 1, 2, .completed, some 8, 6, 8⟩]) := by decide +kernel
  refine ⟨⟨books, hone, hbooks (hone ▸ by decide)⟩, _, hexchange, ?_⟩
  rw [hexchange, Except.ok.injEq, Answer.exchanges.injEq] at hall
  exact fun u => hall ▸ hof u none

end Market

end BookExchange
