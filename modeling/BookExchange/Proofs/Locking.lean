import BookExchange.Proofs.Runs

/-! While another connection holds the write lock every write statement is refused, even one that would
touch no row, and reads go on. Whatever is asked then is refused as a conflict exactly where it comes
to a write statement, and leaves no trace. -/
namespace BookExchange
open Call

namespace Market
variable {summarize : String → String} {s : Store} {op : Operation} {p : Port} {c : Command}

/-- A writing port begins with a write statement. Its diagnosis, where it has one, comes later. -/
theorem Port.opens (p : Port) : Opens p.perform := by
  cases p with
  | insertUser r => exact (Opens.write _).map _
  | saveUser u => exact ((Opens.write _).bind _).map _
  | removeUser id => exact ((Opens.write _).bind _).transaction.bind _
  | insertGenre name => exact (Opens.write _).map _
  | removeGenre id => exact ((Opens.write _).bind _).bind _
  | insertBook e => exact ((Opens.write _).bind _).transaction.map _
  | describe id description => exact ((Opens.write _).bind _).map _
  | removeBook id => exact ((Opens.write _).bind _).bind _
  | reserve id => exact ((Opens.write _).bind _).bind _
  | release id => exact ((Opens.write _).bind _).bind _
  | transfer id owner => exact ((Opens.write _).bind _).bind _
  | insertExchange p => exact (((Opens.write _).bind _).bind _).transaction.map _
  | acceptExchange e => exact ((Opens.write _).bind _).bind _
  | completeExchange e => exact ((Opens.write _).bind _).transaction.bind _
  | cancelExchange e => exact ((Opens.write _).bind _).transaction.bind _
  | insertReview r => exact (Opens.write _).map _
  | removeReview id => exact ((Opens.write _).bind _).bind _

/-- What a service reads before it writes does not depend on the lock. -/
theorem Operation.Reaches.withLock (h : op.Reaches summarize s p) (held : Bool) :
    op.Reaches summarize (s.withLock held) p := by
  cases h with
  | createUser valid => exact .createUser valid
  | updateUser valid found => exact .updateUser valid found
  | deleteUser found read idle => exact .deleteUser found read idle
  | createBook valid => exact .createBook valid
  | updateBook found => exact .updateBook found
  | deleteBook found free => exact .deleteBook found free
  | createGenre validated => exact .createGenre validated
  | deleteGenre positive => exact .deleteGenre positive
  | createExchange parties mineFound theirsFound mineOwned theirsOwned mineFree theirsFree =>
    exact .createExchange parties mineFound theirsFound mineOwned theirsOwned mineFree theirsFree
  | acceptExchange positive found accepted => exact .acceptExchange positive found accepted
  | completeExchange positive found completed => exact .completeExchange positive found completed
  | cancelExchange positive found cancelled => exact .cancelExchange positive found cancelled
  | createReview valid => exact .createReview valid
  | deleteReview found => exact .deleteReview found

namespace Command

theorem Calls.withLock (h : c.Calls s p) (held : Bool) : c.Calls (s.withLock held) p := by
  cases h with
  | service reached => exact .service (reached.withLock held)
  | port => exact .port

theorem not_calls_of_isQuery (query : c.isQuery) : ¬ c.Calls s p := by
  intro h
  cases h with
  | port => cases query
  | service reached => cases reached <;> cases query

/-- Where a command comes to a write statement the held lock refuses it. -/
theorem Calls.refused (h : c.Calls s p) :
    outcome c.perform (s.withLock true) = (.error .locked, s.withLock true) := by
  rw [perform_of_calls (h.withLock true)]
  exact p.opens.blocked rfl

/-- Elsewhere the lock makes no difference, and nothing is written either way. -/
theorem outcome_of_not_calls (h : ∀ p, ¬ c.Calls s p) :
    ∃ r, ∀ held, outcome c.perform (s.withLock held) = (r, s.withLock held) := by
  cases c with
  | port p => exact absurd .port (h p)
  | service summarize op =>
    cases perform_course summarize op s with
    | refuses refused =>
      obtain ⟨f, hf⟩ := refused
      exact ⟨.error f, hf⟩
    | looks query =>
      obtain ⟨r, hr, -⟩ := same_of_isQuery (fun _ => rfl : Alike s s) query
      exact ⟨r, outcome_withLock (fun _ alike => same_of_isQuery alike query) hr⟩
    | reaches reached => exact absurd (.service reached) (h _)

theorem after_held (c : Command) (s : Store) : c.after (s.withLock true) = s.withLock true := by
  by_cases h : ∃ p, c.Calls s p
  · obtain ⟨p, h⟩ := h
    exact congrArg Prod.snd h.refused
  · obtain ⟨r, hr⟩ := outcome_of_not_calls (not_exists.mp h)
    exact congrArg Prod.snd (hr true)

end Command

/-- Each of the commands meets the same store. -/
theorem follow_held (s : Store) (cs : List Command) :
    follow (s.withLock true) cs = (cs.map (⟨s.withLock true, ·⟩), s.withLock true) := by
  induction cs with
  | nil => rfl
  | cons c cs ih => simp [follow, c.after_held, ih]

/-- What a held lock does to whatever is asked of the store, and what is left of it. -/
structure LockTransparent (s : Store) : Prop where
  /-- Whatever is asked, nothing changes. -/
  unchanged (c : Command) : c.after (s.withLock true) = s.withLock true
  /-- What comes down to a port comes to the write statement that the port begins with, and is refused
  as a conflict. -/
  busy (c : Command) (p : Port) (calls : c.Calls (s.withLock false) p) :
    outcome c.perform (s.withLock false) = outcome p.perform (s.withLock false) ∧ Opens p.perform ∧
      c.answer (s.withLock true) = .error .locked ∧ Failure.locked.kind = .conflict
  /-- What does not, writes nothing and is answered as ever. -/
  same (c : Command) (reads : ∀ p, ¬ c.Calls (s.withLock false) p) :
    c.answer (s.withLock true) = c.answer (s.withLock false) ∧
      c.after (s.withLock false) = s.withLock false
  /-- The services that only look are among the latter. -/
  queries (c : Command) (query : c.isQuery) (p : Port) : ¬ c.Calls (s.withLock false) p
  /-- So are the ports that only read. -/
  looks (l : Look) : outcome l.perform (s.withLock true) = (l.see (s.withLock false), s.withLock true)
  /-- Nothing that is asked meanwhile is felt by what comes after it, -/
  meanwhile (cs : List Command) :
    follow (s.withLock true) cs = (cs.map (⟨s.withLock true, ·⟩), s.withLock true)
  /-- nor, once the lock is given back, by what comes later. -/
  traceless (cs later : List Command) :
    follow ((follow (s.withLock true) cs).2.withLock false) later = follow (s.withLock false) later

/-- The lock of another connection is transparent, whatever the store holds. -/
theorem lock_transparent (s : Store) : LockTransparent s where
  unchanged c := c.after_held s
  busy c p calls := by
    have hheld := congrArg Prod.fst calls.refused
    exact ⟨Command.perform_of_calls calls, p.opens, hheld, rfl⟩
  same c reads := by
    obtain ⟨r, hr⟩ := Command.outcome_of_not_calls reads
    have hanswer : ∀ held, c.answer (s.withLock held) = r := fun held => congrArg Prod.fst (hr held)
    exact ⟨(hanswer true).trans (hanswer false).symm, congrArg Prod.snd (hr false)⟩
  queries c query p := Command.not_calls_of_isQuery query
  looks l := congrArg (·, s.withLock true) (alike_withLock (s.withLock false) true l).symm
  meanwhile cs := follow_held s cs
  traceless cs later := by
    rw [follow_held]
    rfl

end Market

end BookExchange
