import BookExchange.Proofs.Atomicity
import BookExchange.Proofs.Ownership

/-! A book is changed or deleted in two steps: the service checks the owner, and the port writes
without looking at the owner again. Other services may come in between, so the write is the owner's
exactly when the exchanges that were completed meanwhile lead back to the actor. -/
namespace BookExchange
open Call Exchange.Proposal

namespace Store
variable {s : Store} {b : BookId}

theorem ownerOf_of_book? {book : Book} (h : s.book? b = .ok (some book)) :
    s.ownerOf b = some book.owner := by
  cases hlive : s.liveBook? b with
  | none => simp [book?_of_none hlive] at h
  | some row =>
    obtain ⟨found, -⟩ := liveBook?_eq_some.mp hlive
    rw [book?_of_some hlive] at h
    cases hs : row.status with
    | unknown text => simp [BookRow.view, hs, Stored.decode, Except.map, bind, Except.bind] at h
    | known status =>
      simp only [BookRow.view, hs, Stored.decode, Except.map, bind, Except.bind, pure, Except.pure,
        Except.ok.injEq, Option.some.injEq] at h
      simp [ownerOf, found, ← h]

/-- A book that can be read after its description was written could be read before. -/
theorem exists_book?_of_describe {description : String}
    (h : ∃ book, (s.setBook b (.describe description)).book? b = .ok (some book)) :
    ∃ book, s.book? b = .ok (some book) := by
  obtain ⟨row, status, hrow, hs⟩ := exists_book?.mp h
  obtain ⟨found, live⟩ := liveBook?_eq_some.mp hrow
  simp only [setBook_get?, ↓reduceIte, Option.map_eq_some_iff] at found
  obtain ⟨row', found', rfl⟩ := found
  exact exists_book?.mpr ⟨row', status, liveBook?_eq_some.mpr ⟨found', live⟩, hs⟩

end Store

namespace Market
variable {s t : Store} {b : BookId} {actor : UserId} {p : Port} {op : Operation}
  {summarize : String → String}

/-- The book that the operation changes or deletes, and the user who asks for it. -/
def Operation.edits? : Operation → Option (BookId × UserId)
  | .updateBook id actor _ | .deleteBook id actor => some (id, actor)
  | _ => none

/-- All that the write of a book asks for. -/
def Port.Permitted (s : Store) : Port → Prop
  | .describe id _ => ∃ book, s.book? id = .ok (some book)
  | .removeBook id => ∃ row, s.books.get? id = some row ∧ row.isFree
  | _ => False

/-- If the port succeeds, the user owns the book. -/
def Port.Authorised (s : Store) (p : Port) (b : BookId) (user : UserId) : Prop :=
  ∀ a t, outcome p.perform s = (.ok a, t) → s.ownerOf b = some user

theorem Port.describe_ok_iff {description : String} (unlocked : s.locked = false) :
    (∃ a t, outcome (Port.describe b description).perform s = (.ok a, t)) ↔
      (Port.describe b description).Permitted s := by
  constructor
  · intro h
    obtain ⟨a, t, h⟩ := h
    obtain ⟨book, hbook, -⟩ := map_eq_ok.mp h
    obtain ⟨f, hf⟩ | ⟨r, u, hr, hw, hread⟩ := Port.describe_cases b description s
    · simp [hf] at hbook
    · cases hr.symm.trans hbook
      rw [eq_of_writes_describe hw] at hread
      exact Store.exists_book?_of_describe ⟨book, (hread book).mp rfl⟩
  · intro h
    obtain ⟨row, status, hrow, -⟩ := Store.exists_book?.mp h
    obtain ⟨found, live⟩ := Store.liveBook?_eq_some.mp hrow
    have hupdate : outcome (Store.updateBook b (·.isLive) (.describe description)) s =
        (.ok true, s.setBook b (.describe description)) :=
      update_eq_true.mpr ⟨unlocked, row, found, live, rfl⟩
    obtain ⟨book, hbook⟩ : ∃ book, (s.setBook b (.describe description)).book? b =
        .ok (some book) := Store.exists_book?_describe h
    refine ⟨.book book, s.setBook b (.describe description), map_eq_ok.mpr ⟨book, ?_, rfl⟩⟩
    simp [Store.describe, outcome_bind, hupdate, hbook]

theorem Port.removeBook_ok_iff (unlocked : s.locked = false) :
    (∃ a t, outcome (Port.removeBook b).perform s = (.ok a, t)) ↔
      (Port.removeBook b).Permitted s := by
  constructor
  · intro h
    obtain ⟨a, t, h⟩ := h
    obtain ⟨-, row, found, free, -⟩ := Store.removeBook_eq_ok.mp (then_pure_eq_ok.mp h).1
    exact ⟨row, found, free⟩
  · intro h
    obtain ⟨row, found, free⟩ := h
    exact ⟨.done, _, then_pure_eq_ok.mpr
      ⟨Store.removeBook_eq_ok.mpr ⟨unlocked, row, found, free, rfl⟩, rfl⟩⟩

/-- The check has seen that the user owns the book. -/
theorem Operation.Reaches.edits (reached : op.Reaches summarize s p)
    (edits : op.edits? = some (b, actor)) :
    s.ownerOf b = some actor ∧
      ((∃ description, p = .describe b description) ∨ p = .removeBook b) := by
  cases reached with
  | updateBook found =>
    cases edits
    exact ⟨Store.ownerOf_of_book? found, .inl ⟨_, rfl⟩⟩
  | deleteBook found =>
    cases edits
    exact ⟨Store.ownerOf_of_book? found, .inr rfl⟩
  | _ => cases edits

theorem Operation.Reaches.ok_iff (reached : op.Reaches summarize s p)
    (edits : op.edits? = some (b, actor)) (unlocked : t.locked = false) :
    (∃ a u, outcome p.perform t = (.ok a, u)) ↔ p.Permitted t := by
  obtain ⟨-, ⟨description, rfl⟩ | rfl⟩ := reached.edits edits
  · exact Port.describe_ok_iff unlocked
  · exact Port.removeBook_ok_iff unlocked

section Run
variable {before since : List Event}

theorem trades_append : trades (before ++ since) t b = trades before t b ++ trades since t b := by
  simp [trades, completions]

/-- What was completed stays as it is. -/
theorem Run.trades_eq {log : List Event} (run : Run Command.Raced .fresh before s)
    (whole : Run Command.Raced .fresh log t) (hs : s ∈ seen log t) :
    trades before t b = trades before s b := by
  have hterms : ∀ x ∈ completions before,
      (t.exchanges.get? x).map (·.terms) = (s.exchanges.get? x).map (·.terms) := by
    intro x hx
    obtain ⟨row, found, -⟩ := (run.provenance.completed x).mp hx
    obtain ⟨row', found', hkeeps⟩ := whole.kept hs x row found
    simp [found, found', hkeeps.terms]
  rw [trades, trades, List.filterMap_congr hterms]

theorem seen_append : seen (before ++ since) t = before.map (·.store) ++ seen since t := by
  simp [seen]

/-- The exchanges completed since then lead from the owner of a book at one time to its owner at a
later one. -/
theorem Run.ownerOf_since (run : Run Command.Raced .fresh before s)
    (later : Run (fun _ => Command.IsService) s since t) (howner : s.ownerOf b = some actor) :
    t.ownerOf b = (trades since t b).foldlM (handOver b) actor := by
  have whole : Run Command.Raced .fresh (before ++ since) t :=
    run.append later fun _ _ _ hc => hc.raced
  have hseen : s ∈ seen (before ++ since) t := by
    obtain ⟨rest, hrest⟩ := later.seen_eq_cons
    simp [seen_append, hrest]
  obtain ⟨creator, hcreator, hfold⟩ := run.provenance.owned b actor howner
  have hcreations : (creations (before ++ since)).filter (·.1 = b) =
      (b, creator) :: (creations since).filter (·.1 = b) := by
    rw [← List.singleton_append, ← hcreator, ← List.filter_append]
    simp [creations]
  cases ht : t.ownerOf b with
  | none =>
    obtain ⟨hnone, -⟩ := whole.provenance.unborn b ht
    simp [hcreations] at hnone
  | some owner =>
    obtain ⟨creator', hcreator', hfold'⟩ := whole.provenance.owned b owner ht
    have hsame : creator' = creator := by
      rw [hcreations, List.cons.injEq, Prod.mk.injEq] at hcreator'
      exact hcreator'.1.2.symm
    rw [trades_append, run.trades_eq whole hseen, hsame, List.foldlM_append, hfold] at hfold'
    exact hfold'.symm

/-! Two users list a book each, swap them, and swap them back. -/

/-- The users and their books. -/
def listed : Store := (follow .fresh (opening.take 4)).2

def swap : List Command :=
  [.service id (.createExchange 1 ⟨2, 1, 2⟩), .service id (.acceptExchange 1 2),
    .service id (.completeExchange 1 1)]

def swapBack : List Command :=
  [.service id (.createExchange 1 ⟨2, 2, 1⟩), .service id (.acceptExchange 2 2),
    .service id (.completeExchange 2 1)]

theorem run_listed : Run Command.Raced .fresh (follow .fresh (opening.take 4)).1 listed := by
  have h : ∀ stores, ∀ c ∈ opening.take 4, c.Raced stores := by simp [opening, Command.Raced]
  exact Run.of_follow .start h

theorem listed_book? :
    listed.book? 1 = .ok (some ⟨1, "Dune", "Herbert", "", "", .available, 1, 2, 2, []⟩) := by
  decide +kernel

/-- A book may be written on behalf of a user who has been checked to own it, as long as the
exchanges that were completed since the check lead back to the user. Otherwise the write goes through
for a former owner. -/
theorem Run.authorised_iff (run : Run Command.Raced .fresh before s)
    (later : Run (fun _ => Command.IsService) s since t) (edits : op.edits? = some (b, actor))
    (checked : op.Reaches summarize s p) :
    p.Authorised t b actor ↔
      (p.Permitted t → (trades since t b).foldlM (handOver b) actor = some actor) := by
  obtain ⟨howner, -⟩ := checked.edits edits
  have whole : Run Command.Raced .fresh (before ++ since) t :=
    run.append later fun _ _ _ hc => hc.raced
  have hok := checked.ok_iff edits whole.unlocked
  rw [← run.ownerOf_since later howner]
  constructor
  · intro h hpermitted
    obtain ⟨a, u, hau⟩ := hok.mpr hpermitted
    exact h a u hau
  · intro h a u hau
    exact h (hok.mp ⟨a, u, hau⟩)

/-- The first user deletes a book that was swapped away and back. -/
theorem Run.authorised_iff_swapBack :
    (Operation.deleteBook 1 1).Reaches id listed (.removeBook 1) ∧
      (trades (follow listed (swap ++ swapBack)).1 (follow listed (swap ++ swapBack)).2 1).length = 2 ∧
      (Port.removeBook 1).Authorised (follow listed (swap ++ swapBack)).2 1 1 := by
  have checked : (Operation.deleteBook 1 1).Reaches id listed (.removeBook 1) :=
    .deleteBook listed_book? (by decide)
  have later := run_services listed (swap ++ swapBack) (by
    simp [swap, swapBack, Command.IsService])
  refine ⟨checked, by decide +kernel, (Run.authorised_iff run_listed later rfl checked).mpr ?_⟩
  intro _
  decide +kernel

/-- Once the book is swapped away, its former owner can still describe and delete it. -/
theorem former_owner_writes :
    ∃ since t, Run (fun _ => Command.IsService) listed since t ∧
      (Operation.updateBook 1 1 ⟨some "mine"⟩).Reaches id listed (.describe 1 "mine") ∧
      ¬ (Port.describe 1 "mine").Authorised t 1 1 ∧
      (Operation.deleteBook 1 1).Reaches id listed (.removeBook 1) ∧
      ¬ (Port.removeBook 1).Authorised t 1 1 := by
  have later := run_services listed swap (by simp [swap, Command.IsService])
  have unlocked : (follow listed swap).2.locked = false := by decide +kernel
  have howner : (follow listed swap).2.ownerOf 1 = some 2 := by decide +kernel
  have hbook : (follow listed swap).2.book? 1 =
      .ok (some ⟨1, "Dune", "Herbert", "", "", .available, 2, 2, 11, []⟩) := by decide +kernel
  have hfree : ((follow listed swap).2.books.get? 1).any (·.isFree) := by decide +kernel
  have hrefuted : ∀ p, (∃ a u, outcome (Port.perform p) (follow listed swap).2 = (.ok a, u)) →
      ¬ p.Authorised (follow listed swap).2 1 1 := by
    intro p hok hauthorised
    obtain ⟨a, u, hau⟩ := hok
    have h := hauthorised a u hau
    simp [howner] at h
  refine ⟨_, _, later, .updateBook listed_book?, hrefuted _ ?_,
    .deleteBook listed_book? (by decide), hrefuted _ ?_⟩
  · exact (Port.describe_ok_iff unlocked).mpr ⟨_, hbook⟩
  · exact (Port.removeBook_ok_iff unlocked).mpr ((Option.any_eq_true _ _).mp hfree)

end Run

end Market
end BookExchange
