import BookExchange.Proofs.Erasure
import BookExchange.Proofs.Locking

/-! A description is written first, and the book is read back for the answer. The answer is what the
book would have told before, with the new description; a book that could not be told before, for its
status is unreadable, is not told afterwards either, but by then the description is written. -/
namespace BookExchange
open Call

namespace BookRow
variable {id : BookId} {description : String} {now : Time}

theorem view_describe (row : BookRow) : (row.describe description now).view id =
    (row.view id).map fun b => { b with description, updatedAt := now } := by
  cases hs : row.status <;>
    simp [view, describe, hs, Stored.decode, bind, Except.bind, pure, Except.pure, Except.map]

end BookRow

namespace Store
variable {s : Store} {id : BookId} {description : String}

/-- The book is there, but its status stands for none. -/
def IsUnreadable (s : Store) (id : BookId) : Prop :=
  ∃ row text, s.liveBook? id = some row ∧ row.status = .unknown text

theorem book?_eq_error {f : Failure} : s.book? id = .error f ↔
    ∃ row text, s.liveBook? id = some row ∧ row.status = .unknown text ∧
      f = Book.Status.unknown text := by
  cases hlive : s.liveBook? id with
  | none => simp [book?_of_none hlive]
  | some row =>
    rw [book?_of_some hlive]
    cases hs : row.status <;>
      simp [BookRow.view, hs, Stored.decode, Except.map, bind, Except.bind, pure, Except.pure,
        @eq_comm _ f]

theorem isUnreadable_iff : s.IsUnreadable id ↔ ∃ f, s.book? id = .error f := by
  constructor
  · intro h
    obtain ⟨row, text, found, unknown⟩ := h
    exact ⟨_, book?_eq_error.mpr ⟨row, text, found, unknown, rfl⟩⟩
  · intro h
    obtain ⟨f, h⟩ := h
    obtain ⟨row, text, found, unknown, -⟩ := book?_eq_error.mp h
    exact ⟨row, text, found, unknown⟩

/-- A write moves the clock on. -/
theorem setBook_ne (s : Store) (id : BookId) (f : Time → BookRow → BookRow) : s.setBook id f ≠ s := by
  intro h
  have hclock : s.clock + 1 = s.clock := congrArg Store.clock h
  exact Nat.succ_ne_self s.clock hclock

theorem liveBook?_setBook_describe : (s.setBook id (.describe description)).liveBook? id =
    (s.liveBook? id).map (.describe description s.clock) := by
  rw [liveBook?, setBook_get?, if_pos rfl, Option.filter_map]
  rfl

/-- The description and its time are all that a reader sees changed. -/
theorem book?_setBook_describe : (s.setBook id (.describe description)).book? id =
    (s.book? id).map (Option.map fun b => { b with description, updatedAt := s.clock }) := by
  have hread : (s.setBook id (.describe description)).liveBook? id =
      (s.liveBook? id).map (.describe description s.clock) := liveBook?_setBook_describe
  cases hlive : s.liveBook? id with
  | none =>
    rw [hlive] at hread
    rw [book?_of_none hlive, book?_of_none hread]
    rfl
  | some row =>
    rw [hlive] at hread
    rw [book?_of_some hlive, book?_of_some hread, BookRow.view_describe]
    cases row.view id <;> rfl

/-- The call answers as the book could be read before. -/
theorem outcome_describe (unlocked : s.locked = false) (id : BookId) (description : String) :
    outcome (describe id description) s = match s.book? id with
      | .ok none => (.error (.bookNotFound id), s)
      | .ok (some b) => (.ok { b with description, updatedAt := s.clock },
          s.setBook id (.describe description))
      | .error f => (.error f, s.setBook id (.describe description)) := by
  rw [describe, outcome_bind]
  cases hlive : s.liveBook? id with
  | none =>
    have missing (row : BookRow) (found : s.books.get? id = some row) : row.isLive = false :=
      Bool.eq_false_iff.mpr fun live => by simp [liveBook?_eq_some.mpr ⟨found, live⟩] at hlive
    have hupdate : outcome (updateBook id (·.isLive) (.describe description)) s = (.ok false, s) :=
      update_eq_false.mpr ⟨unlocked, rfl, missing⟩
    rw [hupdate, book?_of_none hlive]
    rfl
  | some row =>
    obtain ⟨found, live⟩ := liveBook?_eq_some.mp hlive
    have hupdate : outcome (updateBook id (·.isLive) (.describe description)) s =
        (.ok true, s.setBook id (.describe description)) :=
      update_eq_true.mpr ⟨unlocked, row, found, live, rfl⟩
    have hread : (s.setBook id (.describe description)).book? id = (s.book? id).map
        (Option.map fun b => { b with description, updatedAt := s.clock }) := book?_setBook_describe
    rw [hupdate]
    simp only [Bool.not_true, Bool.false_eq_true, ↓reduceIte, outcome_bind, outcome_read, hread,
      book?_of_some hlive]
    cases row.view id <;> rfl

end Store

namespace Market
variable {s : Store} {id : BookId} {description : String}

theorem outcome_port_describe (unlocked : s.locked = false) (id : BookId) (description : String) :
    outcome (Port.describe id description).perform s = match s.book? id with
      | .ok none => (.error (.bookNotFound id), s)
      | .ok (some b) => (.ok (.book { b with description, updatedAt := s.clock }),
          s.setBook id (.describe description))
      | .error f => (.error f, s.setBook id (.describe description)) := by
  rw [Port.perform, outcome_map, Store.outcome_describe unlocked]
  rcases s.book? id with f | _ | b <;> rfl

/-- What comes of a description, with every way in which it can fail. -/
structure Describes (s : Store) (id : BookId) (description : String) : Prop where
  /-- Whoever gets an error finds the store as it was, unless the book is unreadable. -/
  traceless : (∀ f, (Command.port (.describe id description)).answer s = .error f →
      (Command.port (.describe id description)).after s = s) ↔
    s.locked ∨ ¬ s.IsUnreadable id
  unreadable (row : BookRow) (text : String) (unlocked : s.locked = false)
    (found : s.liveBook? id = some row) (unknown : row.status = .unknown text) :
    (Command.port (.describe id description)).answer s = .error (Book.Status.unknown text) ∧
      (Command.port (.describe id description)).after s = s.setBook id (.describe description)
  answered (a : Answer) : (Command.port (.describe id description)).answer s = .ok a ↔
    s.locked = false ∧ ∃ b, s.book? id = .ok (some b) ∧
      a = .book { b with description, updatedAt := s.clock }
  stored (b : Book) (told : (Command.port (.describe id description)).answer s = .ok (.book b)) :
    (Command.port (.describe id description)).after s = s.setBook id (.describe description) ∧
      ((Command.port (.describe id description)).after s).book? id = .ok (some b)

theorem describes_of_locked (locked : s.locked) : Describes s id description := by
  have h : outcome (Port.describe id description).perform s = (.error .locked, s) :=
    (Port.opens _).blocked locked
  have hanswer : (Command.port (.describe id description)).answer s = .error .locked :=
    congrArg Prod.fst h
  constructor
  · exact ⟨fun _ => .inl locked, fun _ _ _ => congrArg Prod.snd h⟩
  · intro row text unlocked
    simp [locked] at unlocked
  · simp [hanswer, locked]
  · simp [hanswer]

theorem describes_of_unreadable {f : Failure} (unlocked : s.locked = false)
    (hbook : s.book? id = .error f) : Describes s id description := by
  have h := outcome_port_describe unlocked id description
  rw [hbook] at h
  have hanswer : (Command.port (.describe id description)).answer s = .error f :=
    congrArg Prod.fst h
  have hafter : (Command.port (.describe id description)).after s =
      s.setBook id (.describe description) := congrArg Prod.snd h
  constructor
  · have changed := Store.setBook_ne s id (.describe description)
    have unreadable := Store.isUnreadable_iff.mpr ⟨f, hbook⟩
    exact iff_of_false (fun kept => changed (hafter.symm.trans (kept f hanswer)))
      (by simp [unlocked, unreadable])
  · intro row text _ found unknown
    have hfault := Store.book?_eq_error.mpr ⟨row, text, found, unknown, rfl⟩
    cases hbook.symm.trans hfault
    exact ⟨hanswer, hafter⟩
  · simp [hanswer, hbook]
  · simp [hanswer]

theorem describes_of_missing (unlocked : s.locked = false) (hbook : s.book? id = .ok none) :
    Describes s id description := by
  have h := outcome_port_describe unlocked id description
  rw [hbook] at h
  have hanswer : (Command.port (.describe id description)).answer s = .error (.bookNotFound id) :=
    congrArg Prod.fst h
  have readable : ¬ s.IsUnreadable id := by simp [Store.isUnreadable_iff, hbook]
  constructor
  · exact iff_of_true (fun _ _ => congrArg Prod.snd h) (.inr readable)
  · exact fun row text _ found unknown => absurd ⟨row, text, found, unknown⟩ readable
  · simp [hanswer, hbook]
  · simp [hanswer]

theorem describes_of_found {b : Book} (unlocked : s.locked = false)
    (hbook : s.book? id = .ok (some b)) : Describes s id description := by
  have h := outcome_port_describe unlocked id description
  rw [hbook] at h
  have hanswer : (Command.port (.describe id description)).answer s =
      .ok (.book { b with description, updatedAt := s.clock }) := congrArg Prod.fst h
  have hafter : (Command.port (.describe id description)).after s =
      s.setBook id (.describe description) := congrArg Prod.snd h
  have readable : ¬ s.IsUnreadable id := by simp [Store.isUnreadable_iff, hbook]
  constructor
  · exact iff_of_true (by simp [hanswer]) (.inr readable)
  · exact fun row text _ found unknown => absurd ⟨row, text, found, unknown⟩ readable
  · simp [hanswer, hbook, unlocked, @eq_comm Answer]
  · intro b' told
    cases hanswer.symm.trans told
    rw [hafter, Store.book?_setBook_describe, hbook]
    exact ⟨rfl, rfl⟩

/-- Whatever the store holds, and whichever book is described. -/
theorem descriptions_written (s : Store) (id : BookId) (description : String) :
    Describes s id description := by
  cases locked : s.locked with
  | true => exact describes_of_locked locked
  | false =>
    cases hbook : s.book? id with
    | error f => exact describes_of_unreadable locked hbook
    | ok found =>
      cases found with
      | none => exact describes_of_missing locked hbook
      | some b => exact describes_of_found locked hbook

/-! The status of a book has been overwritten from outside. -/

def mislaid : Store :=
  { Store.fresh with
    users := ⟨[some ⟨"Ana", "ana@example.org", "Porto", "porto", "", 0, none⟩]⟩
    books := ⟨[some ⟨"Dune", "Herbert", "dune", "herbert", "", "sand", .unknown "lost", 1, 1, 1,
      none⟩]⟩
    clock := 2 }

/-- The call fails, and the description is there. -/
theorem description_left_behind :
    ¬ (∀ s id description f, (Command.port (.describe id description)).answer s = .error f →
      (Command.port (.describe id description)).after s = s) ∧
    (Command.port (.describe 1 "spice")).answer mislaid = .error (Book.Status.unknown "lost") ∧
      (mislaid.books.get? 1).map (·.description) = some "" ∧
      (((Command.port (.describe 1 "spice")).after mislaid).books.get? 1).map (·.description) =
        some "spice" := by
  have failed : (Command.port (.describe 1 "spice")).answer mislaid =
      .error (Book.Status.unknown "lost") := by decide +kernel
  have written : (((Command.port (.describe 1 "spice")).after mislaid).books.get? 1).map
      (·.description) = some "spice" := by decide +kernel
  refine ⟨fun unchanged => ?_, failed, by decide +kernel, written⟩
  rw [unchanged mislaid 1 "spice" _ failed] at written
  exact absurd written (by decide +kernel)

end Market

end BookExchange
