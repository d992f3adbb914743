import BookExchange.Proofs.Searching
import BookExchange.Proofs.Tombstones

/-! Reading exchanges. In a run a later exchange has a later time as well as a greater number, so that
one user's exchanges, newest first, come in the reverse of the order in which all of them do. -/
namespace BookExchange
open Call

namespace Store
variable {s t : Store} {u : UserId}

/-- The exchange of a row whose status can be read. -/
def exchangeOf (r : ExchangeId × ExchangeRow) : Exchange := (r.2.view r.1).toOption.getD default

theorem exchangeOf_eq {x : ExchangeId} {row : ExchangeRow} {status : Exchange.Status}
    (hs : row.status = .known status) : exchangeOf (x, row) =
      ⟨x, row.initiator, row.recipient, row.initiatorBook, row.recipientBook, status,
        row.completedAt, row.createdAt, row.updatedAt⟩ := by
  rw [exchangeOf, Market.view_of_known hs]
  rfl

/-- The rows of the exchanges that name the user, all of them or those with one status. -/
def involving (s : Store) (u : UserId) (status : Option Exchange.Status) :
    List (ExchangeId × ExchangeRow) :=
  s.exchanges.entries.filter fun (_, e) => e.names u && status.all (e.status == .known ·)

/-- Newest first; of equally old exchanges the one with the greater identifier first. -/
def newer (a b : ExchangeId × ExchangeRow) : Bool :=
  b.2.createdAt < a.2.createdAt || (a.2.createdAt == b.2.createdAt && b.1 ≤ a.1)

section Dated
variable (dated : ∀ x row, s.exchanges.get? x = some row → row.Dated)
include dated

theorem view_eq_exchangeOf {r : ExchangeId × ExchangeRow} (hr : r ∈ s.exchanges.entries) :
    r.2.view r.1 = .ok (exchangeOf r) := by
  obtain ⟨status, hs, -⟩ := dated r.1 r.2 (Table.mem_entries.mp hr)
  rw [exchangeOf, Market.view_of_known hs]
  rfl

theorem allExchanges_eq : s.allExchanges = .ok (s.exchanges.entries.map exchangeOf) :=
  mapM_ok fun _ hr => view_eq_exchangeOf dated hr

theorem exchangesOf_eq (u : UserId) (status : Option Exchange.Status) : s.exchangesOf u status =
    .ok (((s.involving u status).mergeSort newer).map exchangeOf) :=
  mapM_ok fun _ hr => view_eq_exchangeOf dated (List.mem_filter.mp (List.mem_mergeSort.mp hr)).1

end Dated

/-- Exchanges are numbered in the order of their times, and none is of the present or later. -/
structure Chronological (s : Store) : Prop where
  past : ∀ x row, s.exchanges.get? x = some row → row.createdAt < s.clock
  ascending : ∀ x y row row', s.exchanges.get? x = some row → s.exchanges.get? y = some row' →
    x < y → row.createdAt < row'.createdAt

/-- Time goes on, and the rows keep their times. -/
theorem Chronological.of_rows (h : s.Chronological) (later : s.clock ≤ t.clock)
    (kept : ∀ x row, t.exchanges.get? x = some row →
      ∃ row', s.exchanges.get? x = some row' ∧ row.createdAt = row'.createdAt) :
    t.Chronological := by
  constructor
  · intro x row found
    obtain ⟨row', found', hat⟩ := kept x row found
    exact hat ▸ lt_of_lt_of_le (h.past x row' found') later
  · intro x y row row' found found' hlt
    obtain ⟨before, hbefore, hat⟩ := kept x row found
    obtain ⟨before', hbefore', hat'⟩ := kept y row' found'
    rw [hat, hat']
    exact h.ascending x y before before' hbefore hbefore' hlt

theorem Chronological.of_modify (h : s.Chronological) {x : ExchangeId}
    {f : ExchangeRow → ExchangeRow} (hf : ∀ row, (f row).createdAt = row.createdAt)
    (changed : t.exchanges = s.exchanges.modify x f) (later : s.clock ≤ t.clock) :
    t.Chronological := by
  refine h.of_rows later fun y row found => ?_
  rw [changed, Table.get?_modify] at found
  split at found
  · obtain ⟨row', found', rfl⟩ := Option.map_eq_some_iff.mp found
    exact ⟨row', found', hf row'⟩
  · exact ⟨row, found, rfl⟩

/-- A new exchange is younger than all others. -/
theorem Chronological.of_insert (h : s.Chronological) {p : Exchange.Proposal} {now : Time}
    (present : s.clock ≤ now) (later : now < t.clock)
    (changed : t.exchanges = s.exchanges.insert (p.row now)) : t.Chronological := by
  have hrow : ∀ x row, t.exchanges.get? x = some row →
      x = s.exchanges.nextId ∧ row.createdAt = now ∨
        x < s.exchanges.nextId ∧ s.exchanges.get? x = some row := by
    intro x row found
    rw [changed, Table.get?_insert] at found
    split at found
    · rename_i hx
      cases found
      exact .inl ⟨hx, rfl⟩
    · exact .inr ⟨Table.lt_nextId found, found⟩
  constructor
  · intro x row found
    obtain ⟨-, hat⟩ | ⟨-, found⟩ := hrow x row found
    · exact hat ▸ later
    · exact ((h.past x row found).trans_le present).trans later
  · intro x y row row' found found' hlt
    obtain ⟨rfl, hat⟩ | ⟨hx, found⟩ := hrow x row found
    · obtain ⟨rfl, -⟩ | ⟨hy, -⟩ := hrow y row' found'
      · exact absurd hlt (lt_irrefl _)
      · exact absurd hlt hy.asymm
    · obtain ⟨-, hat'⟩ | ⟨-, found'⟩ := hrow y row' found'
      · exact hat' ▸ (h.past x row found).trans_le present
      · exact h.ascending x y row row' found found' hlt

theorem newer_iff (a b : ExchangeId × ExchangeRow) :
    newer a b ↔ age a.2.createdAt a.1 ≤ age b.2.createdAt b.1 := by
  simp [newer, age_le_age]

/-- One user's exchanges come in the reverse of the order of their numbers. -/
theorem Chronological.mergeSort_involving (h : s.Chronological) (u : UserId)
    (status : Option Exchange.Status) :
    (s.involving u status).mergeSort newer = (s.involving u status).reverse := by
  refine (eq_mergeSort newer_iff (fun a ha b hb hage => ?_) (List.reverse_perm _) ?_).symm
  · exact Table.eq_of_mem_entries (List.mem_of_mem_filter ha) (List.mem_of_mem_filter hb)
      (id_of_age hage)
  · rw [List.pairwise_reverse]
    refine (s.exchanges.pairwise_entries.filter _).imp_of_mem fun {a b} ha hb hlt => ?_
    have hfound {r} (hr : r ∈ s.involving u status) : s.exchanges.get? r.1 = some r.2 :=
      Table.mem_entries.mp (List.mem_of_mem_filter hr)
    exact age_le_age.mpr (.inl (h.ascending a.1 b.1 a.2 b.2 (hfound ha) (hfound hb) hlt))

end Store

namespace Market
variable {s t : Store} {p : Port}

theorem Port.Writes.clock_lt (h : p.Writes s t) : s.clock < t.clock := by
  cases h <;> simp [Store.tick, Store.setBook, Store.setExchange, Nat.add_assoc]

theorem Port.Writes.chronological (h : p.Writes s t) (chronological : s.Chronological) :
    t.Chronological := by
  have later := h.clock_lt
  cases h with
  | insertExchange =>
    exact chronological.of_insert (Nat.le_add_right s.clock 2) (Nat.lt_succ_self _) rfl
  | @acceptExchange e =>
    exact chronological.of_modify (f := .accept s.clock) (fun _ => rfl) rfl later.le
  | @completeExchange e =>
    exact chronological.of_modify (f := .complete e.completedAt s.clock) (fun _ => rfl) rfl later.le
  | @cancelExchange e =>
    exact chronological.of_modify (f := .cancel s.clock) (fun _ => rfl) rfl later.le
  | _ => exact chronological.of_rows later.le fun _ row found => ⟨row, found, rfl⟩

theorem Run.chronological {allowed : List Store → Command → Prop} {log : List Event}
    (run : Run allowed .fresh log s) : s.Chronological :=
  run.preserves (P := Store.Chronological)
    ⟨by simp [Store.fresh], by simp [Store.fresh]⟩ fun _ c chronological =>
      c.after_keeps chronological fun _ hw => hw.chronological chronological

end Market

end BookExchange
