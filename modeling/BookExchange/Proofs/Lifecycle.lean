import BookExchange.Proofs.Runs
import Mathlib.Data.List.Destutter

/-! The life of an exchange over a whole run. Only the guards of the statements can be relied on: a
caller may come with an exchange as it was long ago, or with one that never was. -/
namespace BookExchange

/-- The courses that an exchange can take from a status on. -/
def Exchange.Status.courses : Status → List (List Status)
  | .pending => [[.pending, .accepted, .completed], [.pending, .cancelled]]
  | .accepted => [[.accepted, .completed]]
  | .completed => [[.completed]]
  | .cancelled => [[.cancelled]]

namespace ExchangeRow

/-- The status can be read, and a time of completion is there exactly when it is `completed`. -/
def Dated (row : ExchangeRow) : Prop :=
  ∃ status, row.status = .known status ∧ (row.completedAt.isSome ↔ status = .completed)

/-- Completed or cancelled. -/
def IsClosed (row : ExchangeRow) : Prop :=
  row.status = .known .completed ∨ row.status = .known .cancelled

/-- The second row is what the first one can have become. -/
structure Keeps (row row' : ExchangeRow) : Prop where
  terms : row'.terms = row.terms
  completedAt : ∀ at?, row.completedAt = some at? → row'.completedAt = some at?
  closed : row.IsClosed → row' = row

/-- A row that is there stays there. -/
def Kept (row? row'? : Option ExchangeRow) : Prop :=
  ∀ row, row? = some row → ∃ row', row'? = some row' ∧ row.Keeps row'

variable {row row' : ExchangeRow} {row? row'? row''? : Option ExchangeRow}

theorem Keeps.refl (row : ExchangeRow) : row.Keeps row := ⟨rfl, fun _ h => h, fun _ => rfl⟩

theorem Keeps.trans {row'' : ExchangeRow} (h : row.Keeps row') (h' : row'.Keeps row'') :
    row.Keeps row'' := by
  refine ⟨h'.terms.trans h.terms, fun at? hat => h'.completedAt _ (h.completedAt _ hat), ?_⟩
  intro hclosed
  have hrow := h.closed hclosed
  subst hrow
  exact h'.closed hclosed

theorem Kept.refl (row? : Option ExchangeRow) : Kept row? row? := fun row h => ⟨row, h, .refl row⟩

theorem Kept.trans (h : Kept row? row'?) (h' : Kept row'? row''?) : Kept row? row''? := by
  intro row hrow
  obtain ⟨row', hrow', hkeeps⟩ := h row hrow
  obtain ⟨row'', hrow'', hkeeps'⟩ := h' row' hrow'
  exact ⟨row'', hrow'', hkeeps.trans hkeeps'⟩

/-- A pending or accepted row has no time of completion that could get lost. -/
theorem Dated.not_completed {status : Exchange.Status} (h : row.Dated)
    (hs : row.status = .known status) (hne : status ≠ .completed) : row.completedAt = none := by
  obtain ⟨status', hs', hiff⟩ := h
  rw [hs] at hs'
  cases hs'
  cases hat : row.completedAt with
  | none => rfl
  | some at? => exact absurd (hiff.mp (by simp [hat])) hne

theorem Next.dated (h : Next row? row'?) (hd : ∀ row, row? = some row → row.Dated) :
    ∀ row, row'? = some row → row.Dated := by
  cases h with
  | stays => exact hd
  | create p now =>
    intro row' hrow'
    cases hrow'
    exact ⟨.pending, rfl, by simp [Exchange.Proposal.row]⟩
  | @accept row pending now =>
    intro row' hrow'
    cases hrow'
    have hnone := (hd row rfl).not_completed pending (by simp)
    exact ⟨.accepted, rfl, by simp [ExchangeRow.accept, hnone]⟩
  | complete accepted at? now =>
    intro row' hrow'
    cases hrow'
    exact ⟨.completed, rfl, by simp [ExchangeRow.complete]⟩
  | cancel pending now =>
    intro row' hrow'
    cases hrow'
    exact ⟨.cancelled, rfl, by simp [ExchangeRow.cancel]⟩

theorem Next.kept (h : Next row? row'?) (hd : ∀ row, row? = some row → row.Dated) :
    Kept row? row'? := by
  cases h with
  | stays => exact .refl _
  | create p now =>
    intro row hrow'
    cases hrow'
  | @accept row pending now =>
    intro row' hrow'
    cases hrow'
    exact ⟨_, rfl, rfl, fun at? hat => hat, by simp [IsClosed, pending]⟩
  | @complete row accepted at? now =>
    intro row' hrow'
    cases hrow'
    have hnone := (hd row rfl).not_completed accepted (by simp)
    exact ⟨_, rfl, rfl, by simp [hnone], by simp [IsClosed, accepted]⟩
  | @cancel row pending now =>
    intro row' hrow'
    cases hrow'
    have hnone := (hd row rfl).not_completed pending (by simp)
    exact ⟨_, rfl, rfl, by simp [hnone], by simp [IsClosed, pending]⟩

/-! Statuses, without repetitions. -/

/-- A status that the courses go through next. -/
theorem courses_cons {status status' : Exchange.Status} {rest : List (Stored Exchange.Status)}
    (hne : status ≠ status') (hcons : ∀ course ∈ status'.courses, status :: course ∈ status.courses)
    (h : ∃ course ∈ status'.courses, rest.destutter' (· ≠ ·) (.known status') <+: course.map .known) :
    ∃ course ∈ status.courses, (Stored.known status' :: rest).destutter' (· ≠ ·) (.known status)
      <+: course.map .known := by
  obtain ⟨course, hmem, hcourse⟩ := h
  refine ⟨status :: course, hcons course hmem, ?_⟩
  have hknown : Stored.known status ≠ Stored.known status' := fun h => hne (Stored.known.inj h)
  simpa [hknown] using hcourse

theorem Next.courses {rows : List (Option ExchangeRow)} {status : Exchange.Status}
    (h : (some row :: rows).IsChain Next) (hs : row.status = .known status) :
    ∃ course ∈ status.courses, (rows.filterMap (·.map (·.status))).destutter' (· ≠ ·) (.known status)
      <+: course.map .known := by
  induction rows generalizing row status with
  | nil => cases status <;> simp [Exchange.Status.courses]
  | cons row? rows ih =>
    rw [List.isChain_cons_cons] at h
    obtain ⟨hnext, hrest⟩ := h
    cases hnext with
    | stays =>
      obtain ⟨course, hmem, hcourse⟩ := ih hrest hs
      exact ⟨course, hmem, by simpa [hs] using hcourse⟩
    | accept pending now =>
      rw [pending] at hs
      cases hs
      exact courses_cons (by decide) (by decide) (ih hrest rfl)
    | complete accepted at? now =>
      rw [accepted] at hs
      cases hs
      exact courses_cons (by decide) (by decide) (ih hrest rfl)
    | cancel pending now =>
      rw [pending] at hs
      cases hs
      exact courses_cons (by decide) (by decide) (ih hrest rfl)

theorem Next.courses_of_none {rows : List (Option ExchangeRow)} (h : (none :: rows).IsChain Next) :
    ∃ course ∈ Exchange.Status.courses .pending,
      (rows.filterMap (·.map (·.status))).destutter (· ≠ ·) <+: course.map .known := by
  induction rows with
  | nil => simp [Exchange.Status.courses]
  | cons row? rows ih =>
    rw [List.isChain_cons_cons] at h
    obtain ⟨hnext, hrest⟩ := h
    cases hnext with
    | stays => exact ih hrest
    | create p now => exact Next.courses hrest rfl

end ExchangeRow

namespace Market
open Call

/-- The exchange that a command moves on, and how it fails when the exchange is closed. -/
def Command.move? : Command → Option (ExchangeId × Failure)
  | .service _ (.acceptExchange id _) | .service _ (.cancelExchange id _) => some (id, .notPending)
  | .service _ (.completeExchange id _) => some (id, .notAccepted)
  | .port (.acceptExchange e) | .port (.cancelExchange e) => some (e.id, .notPending)
  | .port (.completeExchange e) => some (e.id, .notAccepted)
  | _ => none

variable {s : Store} {id : ExchangeId} {row : ExchangeRow} {f : Failure}

/-- The guard of a statement fails. -/
theorem updateExchange_guarded {status : Exchange.Status} {g : Time → ExchangeRow → ExchangeRow}
    (unlocked : s.locked = false) (found : s.exchanges.get? id = some row)
    (hs : row.status ≠ .known status) :
    outcome (Store.updateExchange id status g) s = (.ok false, s) := by
  refine update_eq_false.mpr ⟨unlocked, rfl, ?_⟩
  intro row' hrow'
  rw [found] at hrow'
  cases hrow'
  simpa using hs

theorem Port.refused {p : Port} (unlocked : s.locked = false)
    (found : s.exchanges.get? id = some row) (closed : row.IsClosed)
    (hmove : Command.move? (.port p) = some (id, f)) : outcome p.perform s = (.error f, s) := by
  have hpending : row.status ≠ .known .pending := by
    intro h
    simp [ExchangeRow.IsClosed, h] at closed
  have haccepted : row.status ≠ .known .accepted := by
    intro h
    simp [ExchangeRow.IsClosed, h] at closed
  cases p with
  | acceptExchange e =>
    cases hmove
    have h := updateExchange_guarded (g := .accept) unlocked found hpending
    simp [Port.perform, Store.acceptExchange, outcome_bind, h]
  | completeExchange e =>
    cases hmove
    have h := updateExchange_guarded (g := .complete e.completedAt) unlocked found haccepted
    simp [Port.perform, Store.completeExchange, outcome_map, outcome_transaction, outcome_bind, h]
  | cancelExchange e =>
    cases hmove
    have h := updateExchange_guarded (g := .cancel) unlocked found hpending
    simp [Port.perform, Store.cancelExchange, outcome_map, outcome_transaction, outcome_bind, h]
  | _ => cases hmove

/-- A closed exchange is refused in the same way by its service, whoever asks. -/
theorem perform_refused {summarize : String → String} {op : Operation}
    (found : s.exchanges.get? id = some row) (closed : row.IsClosed)
    (hmove : Command.move? (.service summarize op) = some (id, f)) :
    outcome (perform summarize op) s = (.error f, s) := by
  have hpositive := Int.not_le.mpr (Table.pos_of_get? found)
  obtain ⟨status, hs, hclosed⟩ : ∃ status, row.status = .known status ∧
      (status = .completed ∨ status = .cancelled) := by
    obtain h | h := closed <;> exact ⟨_, h, by simp⟩
  have he := Store.exchange?_eq_some.mpr ⟨row, status, found, hs, rfl⟩
  cases op with
  | acceptExchange id' actor =>
    cases hmove
    obtain rfl | rfl := hclosed <;>
      simp [perform, acceptExchange, getExchange, now, outcome_bind, hpositive, he, Exchange.accept]
  | completeExchange id' actor =>
    cases hmove
    obtain rfl | rfl := hclosed <;>
      simp [perform, completeExchange, getExchange, now, outcome_bind, hpositive, he,
        Exchange.complete]
  | cancelExchange id' actor =>
    cases hmove
    obtain rfl | rfl := hclosed <;>
      simp [perform, cancelExchange, getExchange, now, outcome_bind, hpositive, he, Exchange.cancel]
  | _ => cases hmove

theorem Command.refused {c : Command} (unlocked : s.locked = false)
    (found : s.exchanges.get? id = some row) (closed : row.IsClosed)
    (hmove : c.move? = some (id, f)) : c.answer s = .error f ∧ c.after s = s := by
  have h : outcome c.perform s = (.error f, s) := by
    cases c with
    | service summarize op => exact perform_refused found closed hmove
    | port p => exact Port.refused unlocked found closed hmove
  exact ⟨congrArg Prod.fst h, congrArg Prod.snd h⟩

/-- The life of one exchange in a run. -/
structure Lifecycle (log : List Event) (s : Store) (id : ExchangeId) : Prop where
  /-- The row stays, with its parties, its books and its time of completion. -/
  kept : (seen log s).Pairwise fun t u => ExchangeRow.Kept (t.exchanges.get? id) (u.exchanges.get? id)
  dated : ∀ t ∈ seen log s, ∀ row, t.exchanges.get? id = some row → row.Dated
  course : ∃ course ∈ Exchange.Status.courses .pending,
    ((seen log s).filterMap fun t => (t.exchanges.get? id).map (·.status)).destutter (· ≠ ·)
      <+: course.map .known
  /-- Once it has been closed, whatever would move it on fails and changes nothing. -/
  closed : ∀ t ∈ seen log s, ∀ row, t.exchanges.get? id = some row → row.IsClosed →
    ∀ c f, Command.move? c = some (id, f) → c.answer s = .error f ∧ c.after s = s

section Run
variable {allowed : List Store → Command → Prop} {t : Store} {log : List Event}

theorem Run.dated (run : Run allowed .fresh log s) :
    ∀ row, s.exchanges.get? id = some row → row.Dated := by
  have hfresh : ∀ row, Store.fresh.exchanges.get? id = some row → row.Dated := by
    simp [Store.fresh]
  exact run.preserves (P := fun s => ∀ row, s.exchanges.get? id = some row → row.Dated) hfresh
    fun t c ht => (c.next t id).dated ht

theorem Run.pairwise_kept (run : Run allowed .fresh log s) (id : ExchangeId) :
    (seen log s).Pairwise fun t u =>
      ExchangeRow.Kept (t.exchanges.get? id) (u.exchanges.get? id) := by
  have hchain : ((seen log s).map (·.exchanges.get? id)).IsChain ExchangeRow.Kept := by
    rw [List.isChain_map]
    exact run.isChain fun log t c run => (c.next t id).kept run.dated
  have : Trans ExchangeRow.Kept ExchangeRow.Kept ExchangeRow.Kept := ⟨ExchangeRow.Kept.trans⟩
  exact List.pairwise_map.mp hchain.pairwise

/-- What was there once is still there. -/
theorem Run.kept (run : Run allowed .fresh log s) (ht : t ∈ seen log s) (id : ExchangeId) :
    ExchangeRow.Kept (t.exchanges.get? id) (s.exchanges.get? id) := by
  have hpairs := run.pairwise_kept id
  rw [seen, List.pairwise_append] at hpairs
  rw [seen, List.mem_append, List.mem_singleton] at ht
  obtain ht | rfl := ht
  · exact hpairs.2.2 t ht s (List.mem_singleton_self s)
  · exact .refl _

theorem Run.courses (run : Run allowed .fresh log s) (id : ExchangeId) :
    ∃ course ∈ Exchange.Status.courses .pending,
      ((seen log s).filterMap fun t => (t.exchanges.get? id).map (·.status)).destutter (· ≠ ·)
        <+: course.map .known := by
  have hchain : ((seen log s).map (·.exchanges.get? id)).IsChain ExchangeRow.Next := by
    rw [List.isChain_map]
    exact run.isChain fun log t c _ => c.next t id
  obtain ⟨rest, hrest⟩ := run.seen_eq_cons
  have hnone : Store.fresh.exchanges.get? id = none := Table.get?_empty id
  rw [hrest, List.map_cons, hnone] at hchain
  obtain ⟨course, hmem, hcourse⟩ := ExchangeRow.Next.courses_of_none hchain
  refine ⟨course, hmem, ?_⟩
  simpa [hrest, hnone, List.filterMap_map] using hcourse

theorem Run.lifecycle (run : Run allowed .fresh log s) (id : ExchangeId) : Lifecycle log s id where
  kept := run.pairwise_kept id
  dated := by
    intro t ht
    obtain ⟨log', run'⟩ := run.of_mem_seen ht
    exact run'.dated
  course := run.courses id
  closed := by
    intro t ht row hrow hclosed c f hmove
    obtain ⟨row', hrow', hkeeps⟩ := run.kept ht id row hrow
    rw [hkeeps.closed hclosed] at hrow'
    exact Command.refused run.unlocked hrow' hclosed hmove

/-- After its completion the recipient accepts the exchange in vain. -/
theorem Run.lifecycle_completion :
    (Command.service (fun text => text) (.acceptExchange 1 2)).answer (follow .fresh completion).2 =
      .error .notPending := by
  have hcompleted : ((follow .fresh completion).2.exchanges.get? 1).map (·.status) =
      some (.known .completed) := by decide +kernel
  obtain ⟨row, hrow, hs⟩ := Option.map_eq_some_iff.mp hcompleted
  exact ((Run.lifecycle run_completion 1).closed _ mem_seen row hrow (.inl hs) _ _ rfl).1

end Run

end Market

end BookExchange
