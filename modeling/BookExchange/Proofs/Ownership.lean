import BookExchange.Proofs.Reservation

/-! Who owns a book follows from the history alone: its creator did at first, and every completed
exchange that names it has handed it on once. -/
namespace BookExchange

namespace Exchange.Proposal

instance (p : Proposal) (b : BookId) : Decidable (p.Names b) :=
  inferInstanceAs (Decidable (_ ∨ _))

/-- The book goes from the party who brings it to the other one. -/
def handOver (b : BookId) (owner : UserId) (p : Proposal) : Option UserId :=
  if p.initiatorBook = b ∧ p.initiator = owner then some p.recipient
  else if p.recipientBook = b ∧ p.recipient = owner then some p.initiator
  else none

end Exchange.Proposal

namespace Store

def ownerOf (s : Store) (b : BookId) : Option UserId := (s.books.get? b).map (·.owner)

def IsCompleted (s : Store) (x : ExchangeId) : Prop :=
  ∃ row, s.exchanges.get? x = some row ∧ row.status = .known .completed

variable {s : Store} {x : ExchangeId} {b : BookId}

theorem HeldFrom.ownerOf {u : UserId} (h : s.HeldFrom b u) : s.ownerOf b = some u := by
  obtain ⟨book, hbook, -, -, howner⟩ := h
  simp [Store.ownerOf, hbook, howner]

theorem ownerOf_setBook {id : BookId} {f : Time → BookRow → BookRow}
    (hf : ∀ now row, (f now row).owner = row.owner) : (s.setBook id f).ownerOf b = s.ownerOf b := by
  by_cases hb : b = id <;> simp [ownerOf, hb, Function.comp_def, hf]

@[simp] theorem ownerOf_reserve {id : BookId} : (s.setBook id .reserve).ownerOf b = s.ownerOf b :=
  ownerOf_setBook fun _ _ => rfl

@[simp] theorem ownerOf_release {id : BookId} : (s.setBook id .release).ownerOf b = s.ownerOf b :=
  ownerOf_setBook fun _ _ => rfl

@[simp] theorem ownerOf_transfer {id : BookId} {owner : UserId} :
    (s.setBook id (.transfer owner)).ownerOf b =
      if b = id then (s.ownerOf b).map fun _ => owner else s.ownerOf b := by
  by_cases hb : b = id <;> simp [ownerOf, hb, Function.comp_def, BookRow.transfer]

@[simp] theorem ownerOf_setExchange {f : Time → ExchangeRow → ExchangeRow} :
    (s.setExchange x f).ownerOf b = s.ownerOf b := rfl

theorem isCompleted_setExchange {f : Time → ExchangeRow → ExchangeRow} {row : ExchangeRow}
    (hf : ∀ now row, (f now row).status ≠ .known .completed) (found : s.exchanges.get? x = some row)
    (hs : row.status ≠ .known .completed) {y : ExchangeId} :
    (s.setExchange x f).IsCompleted y ↔ s.IsCompleted y := by
  by_cases hy : y = x
  · subst hy
    simp [IsCompleted, found, hs, hf]
  · simp [IsCompleted, hy]

end Store

namespace Market
open Call

namespace Command

/-- The owner of the book that the command creates. -/
def creator? : Command → Option UserId
  | .service _ (.createBook owner _) => some owner
  | .port (.insertBook e) => some e.owner
  | _ => none

/-- The exchange that the command completes. -/
def completes? : Command → Option ExchangeId
  | .service _ (.completeExchange id _) => some id
  | .port (.completeExchange e) => some e.id
  | _ => none

end Command

namespace Event

/-- The book that the event created, and its first owner. -/
def created? (v : Event) : Option (BookId × UserId) :=
  match v.answer with
  | .ok (.book b) => v.command.creator?.map (b.id, ·)
  | _ => none

/-- The exchange that the event completed. -/
def completed? (v : Event) : Option ExchangeId :=
  match v.answer with
  | .ok _ => v.command.completes?
  | .error _ => none

/-- What an event does to the owners of books and to completed exchanges. -/
inductive Effect (v : Event) : Prop where
  | creates {e : Book.Entry} (created : v.created? = some (v.store.books.nextId, e.owner))
      (completed : v.completed? = none) (written : (Port.insertBook e).Writes v.store v.after)
  | completes {e : Exchange} (created : v.created? = none) (completed : v.completed? = some e.id)
      (fits : (Port.completeExchange e).Fits v.store)
      (written : (Port.completeExchange e).Writes v.store v.after)
  | neither (created : v.created? = none) (completed : v.completed? = none)
      (owners : ∀ b, v.after.ownerOf b = v.store.ownerOf b)
      (exchanges : ∀ x, v.after.IsCompleted x ↔ v.store.IsCompleted x)

end Event

/-- The completed exchanges, in the order of their completion. -/
def completions (log : List Event) : List ExchangeId := log.filterMap Event.completed?

/-- The books with their creators, in the order of their creation. -/
def creations (log : List Event) : List (BookId × UserId) := log.filterMap Event.created?

/-- The completed exchanges that name the book, in the order of their completion. -/
def trades (log : List Event) (s : Store) (b : BookId) : List Exchange.Proposal :=
  ((completions log).filterMap fun x => (s.exchanges.get? x).map (·.terms)).filter (·.Names b)

variable {s t : Store} {p : Port}

/-- Neither a creation nor a completion. -/
theorem Port.Writes.owners (h : p.Writes s t) (fits : p.Fits s)
    (hcreate : (Command.port p).creator? = none) (hcomplete : (Command.port p).completes? = none)
    (b : BookId) : t.ownerOf b = s.ownerOf b := by
  cases h with
  | removeUser found live idle =>
    cases hb : s.books.get? b with
    | none => simp [Store.ownerOf, Table.get?_map, hb]
    | some book =>
      have howner : ∀ id now, (book.withdraw id now).owner = book.owner := by
        intro id now
        unfold BookRow.withdraw
        split <;> rfl
      simp [Store.ownerOf, Table.get?_map, hb, howner]
  | insertBook => cases hcreate
  | describe found live => exact Store.ownerOf_setBook fun _ _ => rfl
  | removeBook found free => exact Store.ownerOf_setBook fun _ _ => rfl
  | reserve found free => exact fits.elim
  | release found => exact fits.elim
  | transfer found known => exact fits.elim
  | @insertExchange q =>
    have hbooks : ((s.setBook q.initiatorBook .reserve).setBook q.recipientBook .reserve).ownerOf b =
        s.ownerOf b := by simp
    exact hbooks
  | completeExchange => cases hcomplete
  | cancelExchange => simp
  | _ => rfl

theorem Port.Writes.completed (h : p.Writes s t) (hcomplete : (Command.port p).completes? = none)
    (x : ExchangeId) : t.IsCompleted x ↔ s.IsCompleted x := by
  cases h with
  | @insertExchange q =>
    by_cases hx : x = s.exchanges.nextId
    · subst hx
      simp [Store.IsCompleted, Table.get?_insert, Table.get?_nextId, Exchange.Proposal.row]
    · simp [Store.IsCompleted, Table.get?_insert, hx]
  | acceptExchange found pending =>
    exact Store.isCompleted_setExchange (by simp [ExchangeRow.accept]) found (by simp [pending])
  | completeExchange => cases hcomplete
  | cancelExchange found pending =>
    exact Store.isCompleted_setExchange (by simp [ExchangeRow.cancel]) found (by simp [pending])
  | _ => rfl

theorem Command.Calls.creator? {c : Command} (h : c.Calls s p) :
    c.creator? = (Command.port p).creator? := by
  cases h with
  | port => rfl
  | service reached => cases reached <;> rfl

theorem Command.Calls.completes? {c : Command} (h : c.Calls s p) :
    c.completes? = (Command.port p).completes? := by
  cases h with
  | port => rfl
  | service reached =>
    cases reached with
    | completeExchange positive found completed =>
      obtain ⟨-, -, rfl⟩ := Exchange.complete_eq_ok.mp completed
      simp [Command.completes?, Store.exchange?_id found]
    | _ => rfl

namespace Event
variable {v : Event} {f : Failure} {a : Answer}

theorem created?_of_error (h : v.answer = .error f) : v.created? = none := by
  simp [created?, h]

theorem completed?_of_error (h : v.answer = .error f) : v.completed? = none := by
  simp [completed?, h]

theorem created?_of_creator? (h : v.command.creator? = none) : v.created? = none := by
  unfold created?
  split <;> simp [h]

theorem completed?_of_completes? (h : v.command.completes? = none) : v.completed? = none := by
  unfold completed?
  split <;> simp [h]

theorem completed?_of_ok (h : v.answer = .ok a) : v.completed? = v.command.completes? := by
  simp [completed?, h]

theorem creator?_of_isQuery {c : Command} (h : c.isQuery) :
    c.creator? = none ∧ c.completes? = none := by
  cases c with
  | service summarize op => cases op <;> first | exact ⟨rfl, rfl⟩ | cases h
  | port p => cases h

theorem effect_of_unchanged (created : v.created? = none) (completed : v.completed? = none)
    (h : v.after = v.store) : v.Effect :=
  .neither created completed (fun b => by rw [h]) fun x => by rw [h]

theorem answer_of_calls (calls : v.command.Calls v.store p)
    (answered : outcome p.perform v.store = (.ok a, v.after)) : v.answer = .ok a :=
  congrArg Prod.fst ((Command.perform_of_calls calls).trans answered)

theorem created?_of_insertBook {e : Book.Entry} (calls : v.command.Calls v.store (.insertBook e))
    (answered : outcome (Port.insertBook e).perform v.store = (.ok a, v.after)) :
    v.created? = some (v.store.books.nextId, e.owner) := by
  have hanswer := answer_of_calls calls answered
  obtain ⟨b, hb, rfl⟩ := map_eq_ok.mp answered
  obtain ⟨-, gs, -, rfl, -⟩ := Store.insertBook_ok hb
  simp only [created?, hanswer, calls.creator?]
  rfl

theorem effect_of_writes (calls : v.command.Calls v.store p) (fits : p.Fits v.store)
    (answered : outcome p.perform v.store = (.ok a, v.after)) : v.Effect := by
  have hanswer := answer_of_calls calls answered
  have hw := Port.writes_of_ok answered
  by_cases hcreates : ∃ e, p = .insertBook e
  · obtain ⟨e, rfl⟩ := hcreates
    exact .creates (created?_of_insertBook calls answered)
      (completed?_of_completes? calls.completes?) hw
  · by_cases hcompletes : ∃ e, p = .completeExchange e
    · obtain ⟨e, rfl⟩ := hcompletes
      refine .completes (created?_of_creator? calls.creator?) ?_ fits hw
      rw [completed?_of_ok hanswer, calls.completes?]
      rfl
    · have hcreator : (Command.port p).creator? = none := by
        cases p <;> first | rfl | exact absurd ⟨_, rfl⟩ hcreates
      have hcomplete : (Command.port p).completes? = none := by
        cases p <;> first | rfl | exact absurd ⟨_, rfl⟩ hcompletes
      exact .neither (created?_of_creator? (calls.creator?.trans hcreator))
        (completed?_of_completes? (calls.completes?.trans hcomplete))
        (hw.owners fits hcreator hcomplete) (hw.completed hcomplete)

theorem effect (v : Event) (fits : ∀ p, v.command.Calls v.store p → p.Fits v.store) : v.Effect := by
  cases v.command.cases v.store with
  | fails failed unchanged =>
    exact effect_of_unchanged (created?_of_error failed) (completed?_of_error failed) unchanged
  | looks query unchanged =>
    obtain ⟨hcreator, hcomplete⟩ := creator?_of_isQuery query
    exact effect_of_unchanged (created?_of_creator? hcreator) (completed?_of_completes? hcomplete)
      unchanged
  | writes calls answered => exact effect_of_writes calls (fits _ calls) answered
  | describes calls failed written unreadable =>
    exact .neither (created?_of_error failed) (completed?_of_error failed)
      (written.owners (fits _ calls) rfl rfl) (written.completed rfl)

end Event

/-- The history accounts for the owners. -/
structure Provenance (log : List Event) (s : Store) : Prop where
  /-- No completion is applied twice. -/
  nodup : (completions log).Nodup
  /-- None is skipped. -/
  completed : ∀ x, x ∈ completions log ↔ s.IsCompleted x
  /-- The owner of a book is found from its creator through the exchanges. -/
  owned : ∀ b owner, s.ownerOf b = some owner →
    ∃ creator, (creations log).filter (·.1 = b) = [(b, creator)] ∧
      (trades log s b).foldlM (Exchange.Proposal.handOver b) creator = some owner
  unborn : ∀ b, s.ownerOf b = none → (creations log).filter (·.1 = b) = [] ∧ trades log s b = []

section Provenance
variable {log : List Event} {v : Event}

theorem creations_concat : creations (log ++ [v]) = creations log ++ v.created?.toList := by
  cases h : v.created? <;> simp [creations, h]

theorem completions_concat : completions (log ++ [v]) = completions log ++ v.completed?.toList := by
  cases h : v.completed? <;> simp [completions, h]

/-- A completed exchange is not touched any more. -/
theorem after_get?_of_isCompleted {x : ExchangeId} (h : v.store.IsCompleted x) :
    v.after.exchanges.get? x = v.store.exchanges.get? x := by
  obtain ⟨row, found, hs⟩ := h
  have hnext := v.command.next v.store x
  change ExchangeRow.Next _ (v.after.exchanges.get? x) at hnext
  rw [found] at hnext ⊢
  generalize v.after.exchanges.get? x = row'? at hnext
  cases hnext with
  | stays => rfl
  | accept pending => simp [hs] at pending
  | complete accepted => simp [hs] at accepted
  | cancel pending => simp [hs] at pending

theorem trades_concat (h : Provenance log v.store) (b : BookId) :
    trades (log ++ [v]) v.after b = trades log v.store b ++
      (v.completed?.toList.filterMap fun x => (v.after.exchanges.get? x).map (·.terms)).filter
        (·.Names b) := by
  have hold : ∀ x ∈ completions log, (v.after.exchanges.get? x).map (·.terms) =
      (v.store.exchanges.get? x).map (·.terms) := by
    intro x hx
    rw [after_get?_of_isCompleted ((h.completed x).mp hx)]
  rw [trades, completions_concat, List.filterMap_append, List.filter_append,
    List.filterMap_congr hold]
  rfl

theorem creations_of_none (h : v.created? = none) : creations (log ++ [v]) = creations log := by
  simp [creations_concat, h]

theorem completions_of_none (h : v.completed? = none) :
    completions (log ++ [v]) = completions log := by
  simp [completions_concat, h]

theorem trades_of_none (h : Provenance log v.store) (hv : v.completed? = none) (b : BookId) :
    trades (log ++ [v]) v.after b = trades log v.store b := by
  simp [trades_concat h, hv]

theorem Provenance.neither (h : Provenance log v.store) (created : v.created? = none)
    (completed : v.completed? = none) (owners : ∀ b, v.after.ownerOf b = v.store.ownerOf b)
    (exchanges : ∀ x, v.after.IsCompleted x ↔ v.store.IsCompleted x) :
    Provenance (log ++ [v]) v.after := by
  constructor
  · rw [completions_of_none completed]
    exact h.nodup
  · intro x
    rw [completions_of_none completed, exchanges x]
    exact h.completed x
  · intro b owner howner
    rw [creations_of_none created, trades_of_none h completed]
    exact h.owned b owner (owners b ▸ howner)
  · intro b hnone
    rw [creations_of_none created, trades_of_none h completed]
    exact h.unborn b (owners b ▸ hnone)

theorem ownerOf_insertBook {e : Book.Entry} (h : (Port.insertBook e).Writes s t) (b : BookId) :
    t.ownerOf b = if b = s.books.nextId then some e.owner else s.ownerOf b := by
  cases h
  by_cases hb : b = s.books.nextId <;> simp [Store.ownerOf, Table.get?_insert, hb, Book.Entry.row]

theorem Provenance.creates {e : Book.Entry} (h : Provenance log v.store)
    (created : v.created? = some (v.store.books.nextId, e.owner)) (completed : v.completed? = none)
    (written : (Port.insertBook e).Writes v.store v.after) : Provenance (log ++ [v]) v.after := by
  have htrades := trades_of_none h completed
  have hothers : ∀ b, b ≠ v.store.books.nextId →
      (creations (log ++ [v])).filter (·.1 = b) = (creations log).filter (·.1 = b) := by
    intro b hb
    simp [creations_concat, created, List.filter_append, Ne.symm hb]
  constructor
  · rw [completions_of_none completed]
    exact h.nodup
  · intro x
    rw [completions_of_none completed, written.completed rfl]
    exact h.completed x
  · intro b owner howner
    rw [ownerOf_insertBook written] at howner
    by_cases hb : b = v.store.books.nextId
    · subst hb
      simp only [↓reduceIte, Option.some.injEq] at howner
      have hnone : v.store.ownerOf v.store.books.nextId = none := by
        simp [Store.ownerOf, Table.get?_nextId]
      obtain ⟨hfilter, htrade⟩ := h.unborn _ hnone
      refine ⟨owner, ?_, ?_⟩
      · simp [creations_concat, created, List.filter_append, hfilter, howner]
      · simp [htrades, htrade]
    · rw [if_neg hb] at howner
      rw [hothers b hb, htrades]
      exact h.owned b owner howner
  · intro b hnone
    rw [ownerOf_insertBook written] at hnone
    have hb : b ≠ v.store.books.nextId := by
      intro hb
      simp [hb] at hnone
    rw [if_neg hb] at hnone
    rw [hothers b hb, htrades]
    exact h.unborn b hnone

/-! The completion of an exchange. -/
section Completion
variable {e : Exchange}

theorem isCompleted_completeExchange (h : (Port.completeExchange e).Writes s t) (x : ExchangeId) :
    t.IsCompleted x ↔ s.IsCompleted x ∨ x = e.id := by
  cases h with
  | completeExchange found accepted =>
    by_cases hx : x = e.id
    · subst hx
      simp [Store.IsCompleted, found, ExchangeRow.complete]
    · simp [Store.IsCompleted, hx]

theorem not_isCompleted_of_completeExchange (h : (Port.completeExchange e).Writes s t) :
    ¬ s.IsCompleted e.id := by
  intro hdone
  obtain ⟨row, hrow, hs⟩ := hdone
  cases h with
  | completeExchange found accepted =>
    rw [hrow] at found
    cases found
    simp [hs] at accepted

theorem terms_completeExchange (h : (Port.completeExchange e).Writes s t)
    (fits : (Port.completeExchange e).Fits s) :
    (t.exchanges.get? e.id).map (·.terms) = some e.terms := by
  obtain ⟨row, hrow, hterms⟩ := fits
  cases h
  simp [hrow, ← hterms, ExchangeRow.complete, ExchangeRow.terms]

theorem ownerOf_completeExchange (h : (Port.completeExchange e).Writes s t) (b : BookId) :
    t.ownerOf b =
      if b = e.recipientBook then (s.ownerOf b).map fun _ => e.initiator
      else if b = e.initiatorBook then (s.ownerOf b).map fun _ => e.recipient
      else s.ownerOf b := by
  cases h
  by_cases hmine : b = e.initiatorBook
  · simp [hmine, Function.comp_def]
  · simp [hmine]

/-- Each book is found with its party and handed to the other one. -/
theorem handOver_completeExchange (h : (Port.completeExchange e).Writes s t)
    (fits : (Port.completeExchange e).Fits s) (consistent : s.Consistent) {b : BookId}
    (hb : e.terms.Names b) :
    ∃ u w, s.ownerOf b = some u ∧ e.terms.handOver b u = some w ∧ t.ownerOf b = some w := by
  have hactive := active_of_completeExchange fits h
  have hbooks : e.initiatorBook ≠ e.recipientBook := (consistent.distinct _ _ hactive).2
  have howner := ownerOf_completeExchange h b
  obtain hmine | htheirs := hb
  · have hmine : e.initiatorBook = b := hmine
    have hu : s.ownerOf b = some e.initiator :=
      (consistent.held _ _ b e.initiator hactive (.inl ⟨hmine, rfl⟩)).ownerOf
    have hne : b ≠ e.recipientBook := hmine ▸ hbooks
    refine ⟨e.initiator, e.recipient, hu, ?_, ?_⟩
    · simp [Exchange.Proposal.handOver, Exchange.terms, hmine]
    · simpa [hne, hmine, hu] using howner
  · have htheirs : e.recipientBook = b := htheirs
    have hu : s.ownerOf b = some e.recipient :=
      (consistent.held _ _ b e.recipient hactive (.inr ⟨htheirs, rfl⟩)).ownerOf
    have hne : e.initiatorBook ≠ b := htheirs ▸ hbooks
    refine ⟨e.recipient, e.initiator, hu, ?_, ?_⟩
    · simp [Exchange.Proposal.handOver, Exchange.terms, htheirs, hne]
    · simpa [htheirs, hu] using howner

theorem ownerOf_completeExchange_of_not_names (h : (Port.completeExchange e).Writes s t) {b : BookId}
    (hb : ¬ e.terms.Names b) : t.ownerOf b = s.ownerOf b := by
  obtain ⟨hmine, htheirs⟩ : b ≠ e.initiatorBook ∧ b ≠ e.recipientBook :=
    Exchange.Proposal.ne_of_not_names hb
  rw [ownerOf_completeExchange h, if_neg htheirs, if_neg hmine]

end Completion

theorem Provenance.completes {e : Exchange} (h : Provenance log v.store)
    (consistent : v.store.Consistent) (created : v.created? = none)
    (completed : v.completed? = some e.id) (fits : (Port.completeExchange e).Fits v.store)
    (written : (Port.completeExchange e).Writes v.store v.after) :
    Provenance (log ++ [v]) v.after := by
  have hcreations : creations (log ++ [v]) = creations log := creations_of_none created
  have hcompletions : completions (log ++ [v]) = completions log ++ [e.id] := by
    simp [completions_concat, completed]
  have htrades : ∀ b, trades (log ++ [v]) v.after b =
      trades log v.store b ++ if e.terms.Names b then [e.terms] else [] := by
    intro b
    have hterms := terms_completeExchange written fits
    by_cases hb : e.terms.Names b <;> simp [trades_concat h, completed, hterms, hb]
  constructor
  · have hnew : e.id ∉ completions log := fun hmem =>
      not_isCompleted_of_completeExchange written ((h.completed _).mp hmem)
    rw [hcompletions, List.nodup_append]
    refine ⟨h.nodup, List.nodup_singleton _, ?_⟩
    intro x hx y hy heq
    rw [List.mem_singleton] at hy
    exact hnew (hy ▸ heq ▸ hx)
  · intro x
    rw [hcompletions, List.mem_append, List.mem_singleton, h.completed,
      isCompleted_completeExchange written]
  · intro b owner howner
    rw [hcreations, htrades]
    by_cases hb : e.terms.Names b
    · obtain ⟨u, w, hu, hw, ht⟩ := handOver_completeExchange written fits consistent hb
      obtain ⟨creator, hcreator, hfold⟩ := h.owned b u hu
      refine ⟨creator, hcreator, ?_⟩
      rw [ht] at howner
      simp [hb, List.foldlM_append, hfold, hw, howner]
    · rw [ownerOf_completeExchange_of_not_names written hb] at howner
      simpa [hb] using h.owned b owner howner
  · intro b hnone
    rw [hcreations, htrades]
    by_cases hb : e.terms.Names b
    · obtain ⟨u, w, -, -, ht⟩ := handOver_completeExchange written fits consistent hb
      simp [ht] at hnone
    · rw [ownerOf_completeExchange_of_not_names written hb] at hnone
      simpa [hb] using h.unborn b hnone

theorem provenance_fresh : Provenance [] .fresh := by
  constructor <;> simp [completions, creations, trades, Store.IsCompleted, Store.ownerOf, Store.fresh]

end Provenance

section Run
variable {log : List Event}

theorem Run.event_fits {v : Event} (run : Run Command.Raced .fresh log v.store)
    (ok : v.command.Raced (seen log v.store)) :
    ∀ p, v.command.Calls v.store p → p.Fits v.store :=
  fun _ calls => run.fits (calls.raced ok mem_seen)

theorem Run.provenance (run : Run Command.Raced .fresh log s) : Provenance log s := by
  induction run with
  | start => exact provenance_fresh
  | @step log s c run ok ih =>
    have ih : Provenance log (Event.mk s c).store := ih
    cases Event.effect ⟨s, c⟩ (Run.event_fits run ok) with
    | creates created completed written => exact ih.creates created completed written
    | completes created completed fits written =>
      exact ih.completes run.consistent created completed fits written
    | neither created completed owners exchanges =>
      exact ih.neither created completed owners exchanges

/-- The parties of an active exchange are two, and each owns the book it brings. Every owner follows
from the creator of the book and the completed exchanges that name it. Nothing but its creation and
such a completion changes the owner of a book. -/
theorem Run.owners_replayed (run : Run Command.Raced .fresh log s) :
    (∀ x q, s.Active x q → q.initiator ≠ q.recipient ∧
      s.ownerOf q.initiatorBook = some q.initiator ∧
      s.ownerOf q.recipientBook = some q.recipient) ∧
    Provenance log s ∧
    ∀ v ∈ log, ∀ b, v.after.ownerOf b ≠ v.store.ownerOf b →
      (v.store.ownerOf b = none ∧ ∃ owner, v.created? = some (b, owner)) ∨
        ∃ x q, v.completed? = some x ∧ v.store.Active x q ∧ q.Names b := by
  refine ⟨?_, run.provenance, ?_⟩
  · intro x q hq
    have h := run.consistent
    have hmine := h.held x q q.initiatorBook q.initiator hq (.inl ⟨rfl, rfl⟩)
    have htheirs := h.held x q q.recipientBook q.recipient hq (.inr ⟨rfl, rfl⟩)
    exact ⟨(h.distinct x q hq).1, hmine.ownerOf, htheirs.ownerOf⟩
  · intro v hv b hne
    obtain ⟨log', run', ok⟩ := run.of_mem_log hv
    cases v.effect (run'.event_fits ok) with
    | creates created completed written =>
      have hb : b = v.store.books.nextId := by
        by_contra hb
        exact hne (by rw [ownerOf_insertBook written, if_neg hb])
      subst hb
      exact .inl ⟨by simp [Store.ownerOf, Table.get?_nextId], _, created⟩
    | @completes e created completed fits written =>
      have hb : e.terms.Names b := by
        by_contra hb
        exact hne (ownerOf_completeExchange_of_not_names written hb)
      exact .inr ⟨e.id, e.terms, completed, active_of_completeExchange fits written, hb⟩
    | neither created completed owners exchanges => exact absurd (owners b) hne

/-- The books change hands once. -/
theorem Run.owners_replayed_secondCompletion :
    (secondCompletion.after (follow .fresh completion).2).ownerOf 1 = some 2 ∧
      Provenance
        ((follow .fresh completion).1 ++ [⟨(follow .fresh completion).2, secondCompletion⟩])
        (secondCompletion.after (follow .fresh completion).2) :=
  ⟨by decide +kernel, (Run.owners_replayed run_secondCompletion).2.1⟩

end Run

end Market

end BookExchange
