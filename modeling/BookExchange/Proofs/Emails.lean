import BookExchange.Proofs.Runs

/-! Emails belong to one user each, for good. No write gives a user an email that the row of another
user has, and rows of closed accounts keep theirs. -/
namespace BookExchange
open Text

namespace Store
variable {s t : Store}

theorem emailTaken_eq_false {email : String} {exempt : UserId} :
    s.emailTaken email exempt = false ↔
      ∀ id row, s.users.get? id = some row → row.email = email → id = exempt := by
  simp [emailTaken, List.any_eq_false, ← Table.mem_entries]

/-- No user has an email that is free for all. -/
theorem email_ne_of_free {email : String} {id : UserId} {row : UserRow}
    (free : s.emailTaken email 0 = false) (found : s.users.get? id = some row) :
    row.email ≠ email := by
  intro h
  have hzero := emailTaken_eq_false.mp free id row found h
  have hpos := Table.pos_of_get? found
  omega

/-- No two users have the same email. -/
def EmailsDistinct (s : Store) : Prop :=
  ∀ i j row row', s.users.get? i = some row → s.users.get? j = some row' →
    row.email = row'.email → i = j

theorem emailsDistinct_fresh : fresh.EmailsDistinct := by
  simp [EmailsDistinct, fresh]

/-- One user gets an email that nobody else has; the others keep theirs. -/
theorem EmailsDistinct.of_write (h : s.EmailsDistinct) (x : UserId) (email : String)
    (hnew : ∀ row, t.users.get? x = some row → row.email = email)
    (hfree : ∀ id row, s.users.get? id = some row → row.email = email → id = x)
    (hothers : ∀ id, id ≠ x → t.users.get? id = s.users.get? id) : t.EmailsDistinct := by
  intro i j row row' hi hj hemail
  by_cases hix : i = x
  · by_cases hjx : j = x
    · rw [hix, hjx]
    · subst hix
      rw [hothers j hjx] at hj
      exact absurd (hfree j row' hj (hemail.symm.trans (hnew row hi))) hjx
  · rw [hothers i hix] at hi
    by_cases hjx : j = x
    · subst hjx
      exact absurd (hfree i row hi (hemail.trans (hnew row' hj))) hix
    · rw [hothers j hjx] at hj
      exact h i j row row' hi hj hemail

end Store

namespace Market
variable {s t : Store} {p : Port} {c : Command} {u : UserId}

/-- The command gives the email to another user than `u`. -/
def Command.GivesEmail (c : Command) (email : String) (u : UserId) : Prop :=
  match c with
  | .service _ (.createUser r) | .port (.insertUser r) => trim r.email = email
  | .service _ (.updateUser id _ change) => id ≠ u ∧ change.email.map trim = some email
  | .port (.saveUser v) => v.id ≠ u ∧ v.email = email
  | _ => False

theorem Port.Writes.emailsDistinct (h : p.Writes s t) (distinct : s.EmailsDistinct) :
    t.EmailsDistinct := by
  cases h with
  | @insertUser r free =>
    refine distinct.of_write s.users.nextId (trim r.email) ?_ ?_ ?_
    · intro row hrow
      simp only [Store.tick_users, Table.get?_insert, ↓reduceIte, Option.some.injEq] at hrow
      rw [← hrow]
      rfl
    · intro id row hrow hemail
      exact absurd hemail (Store.email_ne_of_free free hrow)
    · intro id hne
      simp [Table.get?_insert, hne]
  | @saveUser v row found live free =>
    have hfree := Store.emailTaken_eq_false.mp free
    refine distinct.of_write v.id v.email ?_ hfree ?_
    · intro row' hrow'
      simp only [Store.tick_users, Table.get?_modify, ↓reduceIte, found, Option.map_some,
        Option.some.injEq] at hrow'
      rw [← hrow']
      rfl
    · intro id hne
      simp [Table.get?_modify, hne]
  | @removeUser id row found =>
    refine distinct.of_write id row.email ?_ ?_ ?_
    · intro row' hrow'
      simp only [Table.get?_modify, ↓reduceIte, found, Option.map_some, Option.some.injEq] at hrow'
      rw [← hrow']
      rfl
    · intro i row' hi hemail
      exact distinct i id row' row hi found hemail
    · intro i hne
      simp [Table.get?_modify, hne]
  | _ => exact distinct

/-- An email that a row has is not given to another user. -/
theorem Port.Writes.not_givesEmail {row : UserRow} (h : p.Writes s t)
    (found : s.users.get? u = some row) : ¬ (Command.port p).GivesEmail row.email u := by
  intro gives
  cases h with
  | insertUser free => exact Store.email_ne_of_free free found gives.symm
  | saveUser _ _ free =>
    obtain ⟨hne, hemail⟩ := gives
    exact hne (Store.emailTaken_eq_false.mp free u row found hemail.symm).symm
  | _ => exact gives

theorem Command.not_ok_of_givesEmail {row : UserRow} (found : s.users.get? u = some row)
    (gives : c.GivesEmail row.email u) (a : Answer) : c.answer s ≠ .ok a := by
  intro h
  obtain query | ⟨p, calls, hw⟩ := Command.writes_of_ok h
  · cases c with
    | port p => cases query
    | service summarize op =>
      cases op with
      | createUser r => cases query
      | updateUser id actor change => cases query
      | _ => exact gives
  · refine hw.not_givesEmail found ?_
    cases calls with
    | port => exact gives
    | service reached =>
      cases reached with
      | createUser => exact gives
      | @updateUser id change v valid found' =>
        obtain ⟨hne, hemail⟩ := gives
        have hid : v.id = id := id_of_user? found'
        refine ⟨hid ▸ hne, ?_⟩
        show (change.email.map trim).getD v.email = row.email
        rw [hemail]
        rfl
      | _ => exact gives.elim

theorem Run.emailsDistinct {allowed : List Store → Command → Prop} {log : List Event}
    (run : Run allowed .fresh log s) : s.EmailsDistinct :=
  run.preserves Store.emailsDistinct_fresh fun _ c distinct =>
    c.after_keeps distinct fun _ hw => hw.emailsDistinct distinct

end Market

end BookExchange
