import BookExchange.Proofs.Services

/-! A command that fails leaves the store as it was. A description is written before the book is read
again; the service that writes it has read the book, and a description does not change what can be
read. -/
namespace BookExchange
open Call

namespace Store
variable {s : Store} {id : BookId}

theorem book?_of_none (h : s.liveBook? id = none) : s.book? id = .ok none := by
  simp [book?, h]

/-- A live book can be read when its status can. -/
theorem book?_of_some {row : BookRow} (h : s.liveBook? id = some row) :
    s.book? id = (row.view id).map fun b => some { b with genres := s.genresOf b.id } := by
  cases hv : row.view id with
  | error f => simp [book?, hydrate, h, hv, Except.map, bind, Except.bind]
  | ok b =>
    simp [book?, hydrate, h, hv, variableLimit, Except.map, bind, Except.bind, pure, Except.pure]

theorem exists_book? : (∃ b, s.book? id = .ok (some b)) ↔
    ∃ row status, s.liveBook? id = some row ∧ row.status = .known status := by
  cases h : s.liveBook? id with
  | none => simp [book?_of_none h]
  | some row =>
    rw [book?_of_some h]
    cases hs : row.status <;>
      simp [BookRow.view, hs, Stored.decode, Except.map, bind, Except.bind, pure, Except.pure]

/-- A description leaves a book as readable as it was. -/
theorem exists_book?_describe {description : String} (h : ∃ b, s.book? id = .ok (some b)) :
    ∃ b, (s.setBook id (.describe description)).book? id = .ok (some b) := by
  obtain ⟨row, status, hrow, hstatus⟩ := exists_book?.mp h
  obtain ⟨found, live⟩ := liveBook?_eq_some.mp hrow
  refine exists_book?.mpr ⟨row.describe description s.clock, status, ?_, hstatus⟩
  exact liveBook?_eq_some.mpr ⟨by simp [found], live⟩

end Store

namespace Market
variable {s t : Store} {f : Failure}

theorem eq_of_writes_describe {id : BookId} {description : String}
    (h : (Port.describe id description).Writes s t) : t = s.setBook id (.describe description) := by
  cases h
  rfl

/-- Whatever the store holds and whoever has it locked: a service that fails, or a port other than
that of a book's description, leaves every table and every counter as it was. -/
theorem Command.failed_unchanged {c : Command}
    (h : ∀ id description, c ≠ .port (.describe id description)) (failed : c.answer s = .error f) :
    c.after s = s := by
  cases c.cases s with
  | fails failed' unchanged => exact unchanged
  | looks query unchanged => exact unchanged
  | writes calls answered =>
    rw [← Command.perform_of_calls calls] at answered
    have hok := congrArg Prod.fst answered
    cases failed.symm.trans hok
  | describes calls failed' written unreadable =>
    cases calls with
    | port => exact absurd rfl (h _ _)
    | service reached =>
      cases reached with
      | updateBook found =>
        obtain ⟨b, hb⟩ := Store.exists_book?_describe ⟨_, found⟩
        exact absurd (eq_of_writes_describe written ▸ hb) (unreadable b)

/-- Two users with a book each; the book of the second is reserved. -/
def secondTaken : Store :=
  { Store.fresh with
    users := ⟨[some ⟨"Ana", "a@x", "Porto", "porto", "", 0, none⟩,
      some ⟨"Rui", "r@x", "Porto", "porto", "", 1, none⟩]⟩
    books := ⟨[some ⟨"A", "B", "a", "b", "", "", .known .available, 1, 2, 2, none⟩,
      some ⟨"C", "D", "c", "d", "", "", .known .reserved, 2, 3, 3, none⟩]⟩
    clock := 4 }

/-- The first book is reserved when the second turns out to be taken. -/
theorem Command.failed_unchanged_secondTaken :
    (Command.port (.insertExchange ⟨1, 2, 1, 2⟩)).answer secondTaken = .error (.alreadyReserved 2) ∧
      (Command.port (.insertExchange ⟨1, 2, 1, 2⟩)).after secondTaken = secondTaken :=
  have failed : (Command.port (.insertExchange ⟨1, 2, 1, 2⟩)).answer secondTaken =
      .error (.alreadyReserved 2) := rfl
  ⟨failed, Command.failed_unchanged (by simp) failed⟩

end Market

end BookExchange
