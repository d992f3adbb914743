import BookExchange.Proofs.Agreement
import BookExchange.Proofs.Reservation
import Mathlib.Data.List.Perm.Basic
import Mathlib.Data.List.Nodup

/-! What is done with one exchange does not meet what is done with another: an answer depends on the
exchange alone, and two exchanges that are open have no book in common. So the order of such calls
shows in nothing but the times of the last change and of completion. -/
namespace BookExchange
open Call

namespace Table
variable {α : Type}

/-- Changes to rows, one after the other. -/
def amend (t : Table α) (es : List (Int × (α → α))) : Table α :=
  es.foldl (fun t e => t.modify e.1 e.2) t

theorem amend_modify_comm {id : Int} {es : List (Int × (α → α))} (apart : ∀ e ∈ es, e.1 ≠ id)
    (t : Table α) (f : α → α) : (t.amend es).modify id f = (t.modify id f).amend es := by
  induction es generalizing t with
  | nil => rfl
  | cons e es ih =>
    obtain ⟨hne, hrest⟩ := List.forall_mem_cons.mp apart
    have hcomm := modify_comm hne t e.2 f
    calc ((t.modify e.1 e.2).amend es).modify id f
        = ((t.modify e.1 e.2).modify id f).amend es := ih hrest _
      _ = ((t.modify id f).modify e.1 e.2).amend es := by rw [hcomm]

/-- Changes to different rows commute. -/
theorem amend_comm {es es' : List (Int × (α → α))} (apart : ∀ e ∈ es, ∀ e' ∈ es', e.1 ≠ e'.1)
    (t : Table α) : (t.amend es).amend es' = (t.amend es').amend es := by
  induction es' generalizing t with
  | nil => rfl
  | cons e' es' ih =>
    have hhead : ∀ e ∈ es, e.1 ≠ e'.1 := fun e he => apart e he e' List.mem_cons_self
    have htail : ∀ e ∈ es, ∀ e'' ∈ es', e.1 ≠ e''.1 := fun e he e'' he' =>
      apart e he e'' (List.mem_cons_of_mem _ he')
    calc ((t.amend es).modify e'.1 e'.2).amend es'
        = ((t.modify e'.1 e'.2).amend es).amend es' := by rw [amend_modify_comm hhead]
      _ = ((t.modify e'.1 e'.2).amend es').amend es := ih htail _

end Table

def BookRow.undated (b : BookRow) : BookRow := { b with updatedAt := 0 }

def ExchangeRow.undated (e : ExchangeRow) : ExchangeRow :=
  { e with completedAt := e.completedAt.map fun _ => 0, updatedAt := 0 }

/-- An action on an exchange that has succeeded. -/
structure Exchange.Deal where
  action : Exchange.Action
  exchange : ExchangeId
  terms : Exchange.Proposal
deriving DecidableEq, Repr

namespace Exchange.Deal

/-- What becomes of the row of the exchange, apart from the times. -/
def edit (d : Deal) : ExchangeRow → ExchangeRow :=
  match d.action with
  | .accept => .accept 0
  | .complete => .complete none 0
  | .cancel => .cancel 0

/-- What becomes of the rows of the books, apart from the times. -/
def edits (d : Deal) : List (BookId × (BookRow → BookRow)) :=
  (d.action.edits d.terms).map fun w => (w.1, w.2 0)

theorem names_of_mem_edits {d : Deal} {e : BookId × (BookRow → BookRow)} (h : e ∈ d.edits) :
    d.terms.Names e.1 := by
  obtain ⟨w, hw, rfl⟩ := List.mem_map.mp h
  unfold Action.edits at hw
  split at hw
  · simp at hw
  · simp only [List.mem_cons, List.not_mem_nil, or_false] at hw
    obtain rfl | rfl | rfl | rfl := hw
    · exact .inl rfl
    · exact .inr rfl
    · exact .inl rfl
    · exact .inr rfl
  · simp only [List.mem_cons, List.not_mem_nil, or_false] at hw
    obtain rfl | rfl := hw
    · exact .inl rfl
    · exact .inr rfl

end Exchange.Deal

namespace Store
variable {s t : Store} {d d' : Exchange.Deal}

/-- The store without the times at which books and exchanges were last changed and exchanges were
completed; whether they were completed stays. -/
def undated (s : Store) : Store :=
  { s with books := s.books.map .undated, exchanges := s.exchanges.map .undated }

/-- What a deal makes of a store, apart from the times. -/
def deal (s : Store) (d : Exchange.Deal) : Store :=
  { s with
    books := s.books.amend d.edits
    exchanges := s.exchanges.modify d.exchange d.edit
    clock := s.clock + (d.edits.length + 1) }

/-- Does what is decided, or nothing. -/
def settle (s : Store) : Except Failure Exchange.Deal → Store
  | .ok d => s.deal d
  | .error _ => s

theorem undated_setBooks {ws : List (BookId × (Time → BookRow → BookRow))}
    (h : ∀ w ∈ ws, ∀ now row, (w.2 now row).undated = w.2 0 row.undated) (s : Store) :
    (s.setBooks ws).undated = { s.undated with
      books := s.undated.books.amend (ws.map fun w => (w.1, w.2 0))
      clock := s.clock + ws.length } := by
  induction ws generalizing s with
  | nil => rfl
  | cons w ws ih =>
    obtain ⟨hw, hws⟩ := List.forall_mem_cons.mp h
    have hbooks : (s.setBook w.1 w.2).undated.books = s.undated.books.modify w.1 (w.2 0) :=
      Table.map_modify (hw s.clock) s.books w.1
    have hclock : (s.setBook w.1 w.2).clock + ws.length = s.clock + (w :: ws).length :=
      Nat.add_right_comm s.clock 1 ws.length
    refine (ih hws (s.setBook w.1 w.2)).trans ?_
    rw [hbooks, hclock]
    rfl

theorem undated_edits (a : Exchange.Action) (p : Exchange.Proposal) :
    ∀ w ∈ a.edits p, ∀ now row, (w.2 now row).undated = w.2 0 row.undated := by
  cases a <;> simp [Exchange.Action.edits, BookRow.undated, BookRow.transfer, BookRow.release]

theorem undated_edit (a : Exchange.Action) (e : Exchange) (now : Time) (row : ExchangeRow) :
    (a.edit e now row).undated = Exchange.Deal.edit ⟨a, e.id, e.terms⟩ row.undated := by
  cases a with
  | accept => rfl
  | complete =>
    cases hat : row.completedAt <;>
      simp [Exchange.Action.edit, Exchange.Deal.edit, ExchangeRow.complete, ExchangeRow.undated, hat]
  | cancel => rfl

theorem undated_moved (s : Store) (a : Exchange.Action) (e : Exchange) :
    (s.moved a e).undated = s.undated.deal ⟨a, e.id, e.terms⟩ := by
  have hrow : (s.setExchange e.id (a.edit e)).undated.exchanges =
      s.undated.exchanges.modify e.id (Exchange.Deal.edit ⟨a, e.id, e.terms⟩) :=
    Table.map_modify (undated_edit a e s.clock) s.exchanges e.id
  have hclock : (s.setExchange e.id (a.edit e)).clock + (a.edits e.terms).length =
      s.clock + ((Exchange.Deal.edits ⟨a, e.id, e.terms⟩).length + 1) := by
    rw [Exchange.Deal.edits, List.length_map]
    exact Nat.add_right_comm s.clock 1 _
  rw [moved, undated_setBooks (undated_edits a e.terms)]
  simp only [hrow, hclock]
  rfl

/-- Deals of different exchanges without a common book. -/
theorem deal_comm (exchanges : d.exchange ≠ d'.exchange)
    (books : ∀ b, d.terms.Names b → ¬ d'.terms.Names b) (s : Store) :
    (s.deal d).deal d' = (s.deal d').deal d := by
  have hbooks : (s.books.amend d.edits).amend d'.edits = (s.books.amend d'.edits).amend d.edits := by
    refine Table.amend_comm (fun e he e' he' heq => ?_) s.books
    exact books e.1 (Exchange.Deal.names_of_mem_edits he)
      (heq ▸ Exchange.Deal.names_of_mem_edits he')
  have hexchanges := Table.modify_comm exchanges s.exchanges d.edit d'.edit
  have hclock := Nat.add_right_comm s.clock (d.edits.length + 1) (d'.edits.length + 1)
  simp only [deal, hbooks, hexchanges, hclock]

/-- Rows that bear an exchange still do so where none has gone. -/
theorem Backs.mono {p : Exchange.Proposal} (h : s.Backs p)
    (users : ∀ id, (s.users.get? id).isSome → (t.users.get? id).isSome)
    (books : ∀ id, (s.books.get? id).isSome → (t.books.get? id).isSome) : t.Backs p :=
  ⟨users _ h.initiator, users _ h.recipient, books _ h.initiatorBook, books _ h.recipientBook⟩

/-- Every exchange has the rows that it names. -/
def Backed (s : Store) : Prop := ∀ id row, s.exchanges.get? id = some row → s.Backs row.terms

theorem backed_fresh : fresh.Backed := by
  simp [Backed, fresh]

/-- A statement on an exchange leaves its terms. -/
theorem terms_of_setExchange {x id : ExchangeId} {row : ExchangeRow}
    (f : Time → ExchangeRow → ExchangeRow) (hf : ∀ now row, (f now row).terms = row.terms)
    (found : (s.setExchange x f).exchanges.get? id = some row) :
    ∃ row', s.exchanges.get? id = some row' ∧ row'.terms = row.terms := by
  rw [setExchange_get?] at found
  split at found
  · obtain ⟨row', found', rfl⟩ := Option.map_eq_some_iff.mp found
    exact ⟨row', found', (hf _ _).symm⟩
  · exact ⟨row, found, rfl⟩

end Store

namespace Market
variable {summarize : String → String} {s t : Store} {p : Port} {m n : Move}

/-- The exchanges after a write are those before it, with their terms, and the one that it opens. -/
theorem Port.Writes.terms_cases (h : p.Writes s t) {id : ExchangeId} {row : ExchangeRow}
    (found : t.exchanges.get? id = some row) :
    (∃ row', s.exchanges.get? id = some row' ∧ row'.terms = row.terms) ∨
      p = .insertExchange row.terms := by
  cases h with
  | @insertExchange q =>
    rw [Store.tick_exchanges, Table.get?_insert] at found
    split at found
    · cases found
      exact .inr rfl
    · exact .inl ⟨row, found, rfl⟩
  | acceptExchange => exact .inl (Store.terms_of_setExchange .accept (fun _ _ => rfl) found)
  | @completeExchange e =>
    simp only [Store.setBook_exchanges] at found
    exact .inl (Store.terms_of_setExchange (.complete e.completedAt) (fun _ _ => rfl) found)
  | cancelExchange =>
    simp only [Store.setBook_exchanges] at found
    exact .inl (Store.terms_of_setExchange .cancel (fun _ _ => rfl) found)
  | _ => exact .inl ⟨row, found, rfl⟩

theorem Port.Writes.backed (h : p.Writes s t) (backed : s.Backed) : t.Backed := by
  have hmono : ∀ q, s.Backs q → t.Backs q :=
    fun q hq => hq.mono (fun _ => h.user_kept) fun _ => h.book_kept
  intro id row found
  obtain ⟨row', found', hterms⟩ | rfl := h.terms_cases found
  · exact hmono _ (hterms ▸ backed id row' found')
  · cases h with
    | insertExchange mineFound _ _ theirsFound _ _ _ _ known =>
      exact hmono _ ⟨known.1, known.2, by simp [mineFound], by simp [theirsFound]⟩

namespace Move

/-- The deal that the call makes, or how it fails. -/
def decision (m : Move) (s : Store) : Except Failure Exchange.Deal :=
  (m.verdict s).map fun e => ⟨m.action, e.id, e.terms⟩

/-- The call decides by the exchange that it reads, whatever the time. -/
theorem decision_eq (m : Move) (s : Store) (now : Time) :
    m.decision s = (load s m.exchange).bind fun e =>
      (e.move m.action m.actor now).bind fun _ => .ok ⟨m.action, e.id, e.terms⟩ := by
  unfold decision verdict
  cases load s m.exchange with
  | error f => rfl
  | ok e =>
    refine Eq.trans ?_ (Exchange.move_at _ s.clock now)
    simp only [Except.bind]
    cases hmove : e.move m.action m.actor s.clock with
    | error f => rfl
    | ok e' =>
      obtain ⟨-, hid, hterms, -⟩ := Exchange.of_move hmove
      simp [Except.map, hid, hterms]

theorem decision_congr (h : load t m.exchange = load s m.exchange) : m.decision t = m.decision s := by
  rw [decision_eq m t 0, decision_eq m s 0, h]

/-- A deal is made of an active exchange. -/
theorem active_of_decision {d : Exchange.Deal} (h : m.decision s = .ok d) :
    d.exchange = m.exchange ∧ s.Active m.exchange d.terms := by
  cases hv : m.verdict s with
  | error f => simp [decision, hv, Except.map] at h
  | ok e' =>
    simp only [decision, hv, Except.map, Except.ok.injEq] at h
    subst h
    obtain ⟨e, found, moved⟩ := verdict_eq_ok.mp hv
    obtain ⟨hstatus, hid, hterms, -⟩ := Exchange.of_move moved
    obtain ⟨row, status, hrow, hs, rfl⟩ := Store.exchange?_eq_some.mp found
    have hactive : m.action.source.isActive := by cases m.action <;> rfl
    exact ⟨hid, Store.active_of_get? hrow (hstatus ▸ hs) hactive hterms.symm⟩

section Outcome
variable (unlocked : s.locked = false) (backed : s.Backed)
include unlocked backed

theorem outcome_command : outcome (m.command summarize).perform s = match m.verdict s with
    | .ok e => (.ok .done, s.moved m.action e)
    | .error f => (.error f, s) := by
  have hrows : ∀ e, s.exchange? m.exchange = .ok (some e) → s.Backs e.terms := by
    intro e found
    obtain ⟨row, status, hrow, -, rfl⟩ := Store.exchange?_eq_some.mp found
    exact backed _ row hrow
  refine (outcome_of_backed hrows).trans ?_
  cases m.verdict s <;> simp [unlocked]

theorem answer_eq : (m.command summarize).answer s = (m.decision s).map fun _ => .done := by
  refine (congrArg Prod.fst (outcome_command unlocked backed)).trans ?_
  rw [decision]
  cases m.verdict s <;> rfl

theorem undated_after :
    ((m.command summarize).after s).undated = s.undated.settle (m.decision s) := by
  have hcommand : outcome (m.command summarize).perform s = _ := outcome_command unlocked backed
  refine congrArg Store.undated (congrArg Prod.snd hcommand) |>.trans ?_
  rw [decision]
  cases hv : m.verdict s with
  | error f => rfl
  | ok e => exact Store.undated_moved s m.action e

/-- Another exchange reads as before. -/
theorem load_after {id : ExchangeId} (apart : id ≠ m.exchange) :
    load ((m.command summarize).after s) id = load s id := by
  have hcommand : outcome (m.command summarize).perform s = _ := outcome_command unlocked backed
  have hafter : (m.command summarize).after s = _ := congrArg Prod.snd hcommand
  have hrow : ((m.command summarize).after s).exchanges.get? id = s.exchanges.get? id := by
    rw [hafter]
    cases hv : m.verdict s with
    | error f => rfl
    | ok e' =>
      obtain ⟨e, found, moved⟩ := verdict_eq_ok.mp hv
      have hid : e'.id = m.exchange := (Exchange.of_move moved).2.1.trans (Store.exchange?_id found)
      show (s.moved m.action e').exchanges.get? id = s.exchanges.get? id
      rw [Store.moved_exchanges, Table.get?_modify, if_neg (hid ▸ apart)]
  simp only [load, Store.exchange?, hrow]

/-- Another exchange is decided as before. -/
theorem decision_after (apart : n.exchange ≠ m.exchange) :
    n.decision ((m.command summarize).after s) = n.decision s :=
  decision_congr (load_after unlocked backed apart)

end Outcome

theorem unlocked_after (unlocked : s.locked = false) :
    ((m.command summarize).after s).locked = false :=
  ((m.command summarize).after_locked s).trans unlocked

end Move

theorem Command.after_backed (c : Command) (backed : s.Backed) : (c.after s).Backed :=
  c.after_keeps backed fun _ hw => hw.backed backed

theorem Run.backed {allowed : List Store → Command → Prop} {log : List Event}
    (run : Run allowed .fresh log s) : s.Backed :=
  run.preserves Store.backed_fresh fun _ c => c.after_backed

/-- Calls one after the other: the answer to each, and the store in the end. -/
def play (summarize : String → String) (s : Store) :
    List Move → List (Move × Except Failure Answer) × Store
  | [] => ([], s)
  | m :: ms =>
    ((m, (m.command summarize).answer s) :: (play summarize ((m.command summarize).after s) ms).1,
      (play summarize ((m.command summarize).after s) ms).2)

/-- Calls on different exchanges get the answers that they would get at the start, and do what they
would decide at the start. -/
theorem play_eq (summarize : String → String) {ms : List Move} (unlocked : s.locked = false)
    (backed : s.Backed) (apart : (ms.map (·.exchange)).Nodup) :
    (play summarize s ms).1 = ms.map (fun m => (m, (m.command summarize).answer s)) ∧
      (play summarize s ms).2.undated =
        ms.foldl (fun t m => t.settle (m.decision s)) s.undated := by
  induction ms generalizing s with
  | nil => exact ⟨rfl, rfl⟩
  | cons m ms ih =>
    rw [List.map_cons, List.nodup_cons] at apart
    have hother : ∀ n ∈ ms, n.exchange ≠ m.exchange :=
      fun n hn heq => apart.1 (heq ▸ List.mem_map_of_mem hn)
    have hdecision : ∀ n ∈ ms, n.decision ((m.command summarize).after s) = n.decision s :=
      fun n hn => Move.decision_after unlocked backed (hother n hn)
    have unlocked' : ((m.command summarize).after s).locked = false := Move.unlocked_after unlocked
    have backed' := (m.command summarize).after_backed backed
    obtain ⟨hanswers, hend⟩ := ih unlocked' backed' apart.2
    constructor
    · rw [play, hanswers, List.map_cons]
      refine congrArg _ (List.map_congr_left fun n hn => ?_)
      rw [Move.answer_eq unlocked' backed', Move.answer_eq unlocked backed, hdecision n hn]
    · rw [play, hend, List.foldl_cons, Move.undated_after unlocked backed]
      exact List.foldl_ext _ _ _ fun t n hn => by rw [hdecision n hn]

/-- What is decided for different exchanges can be done in any order: if both exchanges are active they
have no book in common. -/
theorem settle_comm (consistent : s.Consistent) (apart : m.exchange ≠ n.exchange) (t : Store) :
    (t.settle (m.decision s)).settle (n.decision s) =
      (t.settle (n.decision s)).settle (m.decision s) := by
  cases hm : m.decision s with
  | error f => rfl
  | ok d =>
    cases hn : n.decision s with
    | error f => rfl
    | ok d' =>
      obtain ⟨hd, hactive⟩ := Move.active_of_decision hm
      obtain ⟨hd', hactive'⟩ := Move.active_of_decision hn
      have hne : d.exchange ≠ d'.exchange := by rwa [hd, hd']
      refine Store.deal_comm hne (fun b hb hb' => ?_) t
      exact apart (consistent.unique _ _ _ _ b hactive hactive' hb hb')

section Order
variable (unlocked : s.locked = false) (backed : s.Backed)
include unlocked backed

theorem answer_after (apart : n.exchange ≠ m.exchange) :
    (n.command summarize).answer ((m.command summarize).after s) = (n.command summarize).answer s := by
  have backed' := (m.command summarize).after_backed backed
  rw [Move.answer_eq (Move.unlocked_after unlocked) backed', Move.answer_eq unlocked backed,
    Move.decision_after unlocked backed apart]

theorem play_perm (summarize : String → String) (consistent : s.Consistent) {ms ns : List Move}
    (perm : ms.Perm ns) (apart : (ms.map (·.exchange)).Nodup) :
    (play summarize s ms).1.Perm (play summarize s ns).1 ∧
      (play summarize s ms).2.undated = (play summarize s ns).2.undated := by
  have apart' : (ns.map (·.exchange)).Nodup := (perm.map _).nodup_iff.mp apart
  obtain ⟨hanswers, hend⟩ := play_eq summarize unlocked backed apart
  obtain ⟨hanswers', hend'⟩ := play_eq summarize unlocked backed apart'
  constructor
  · rw [hanswers, hanswers']
    exact perm.map _
  · rw [hend, hend']
    refine perm.foldl_eq' (fun m hm n hn t => ?_) s.undated
    by_cases hmn : m = n
    · rw [hmn]
    · have hne : m.exchange ≠ n.exchange := fun heq =>
        hmn (List.inj_on_of_nodup_map apart hm hn heq)
      exact settle_comm consistent hne t

end Order

/-- The order of calls on different exchanges does not matter. -/
structure Independent (summarize : String → String) (s : Store) : Prop where
  /-- Two calls get the same answers in either order and leave the same store, apart from the times. -/
  pair (m n : Move) (apart : m.exchange ≠ n.exchange) :
    (n.command summarize).answer ((m.command summarize).after s) = (n.command summarize).answer s ∧
      (m.command summarize).answer ((n.command summarize).after s) = (m.command summarize).answer s ∧
      ((n.command summarize).after ((m.command summarize).after s)).undated =
        ((m.command summarize).after ((n.command summarize).after s)).undated
  /-- So do any calls on pairwise different exchanges in any order. -/
  order (ms ns : List Move) (perm : ms.Perm ns) (apart : (ms.map (·.exchange)).Nodup) :
    (play summarize s ms).1.Perm (play summarize s ns).1 ∧
      (play summarize s ms).2.undated = (play summarize s ns).2.undated

section Run
variable {log : List Event}

/-- Whatever services and racing callers have done before, transitions of different exchanges
commute. -/
theorem Run.moves_independent (run : Run Command.Raced .fresh log s)
    (summarize : String → String) : Independent summarize s := by
  constructor
  · intro m n apart
    have hpair : ([m, n].map (·.exchange)).Nodup := by simpa using apart
    have hends := (play_perm run.unlocked run.backed summarize run.consistent (.swap n m []) hpair).2
    exact ⟨answer_after run.unlocked run.backed apart.symm,
      answer_after run.unlocked run.backed apart, hends⟩
  · intro ms ns perm apart
    exact play_perm run.unlocked run.backed summarize run.consistent perm apart

/-! Two users have two exchanges under way. -/

def crossing : List Command :=
  opening ++ [.service id (.createBook 1 ⟨"Ubik", "Dick", "", none, []⟩),
    .service id (.createBook 2 ⟨"Solaris", "Lem", "", none, []⟩),
    .service id (.createExchange 2 ⟨1, 4, 3⟩)]

/-- The first user cancels one exchange and accepts the other. -/
theorem Run.moves_independent_crossing :
    (play id (follow .fresh crossing).2 [⟨.cancel, 1, 1⟩, ⟨.accept, 2, 1⟩]).1 =
        [(⟨.cancel, 1, 1⟩, .ok .done), (⟨.accept, 2, 1⟩, .ok .done)] ∧
      (play id (follow .fresh crossing).2 [⟨.cancel, 1, 1⟩, ⟨.accept, 2, 1⟩]).2.undated =
        (play id (follow .fresh crossing).2 [⟨.accept, 2, 1⟩, ⟨.cancel, 1, 1⟩]).2.undated := by
  have hraced : ∀ stores, ∀ c ∈ crossing, c.Raced stores := by
    simp [crossing, opening, Command.Raced]
  have run : Run Command.Raced .fresh (follow .fresh crossing).1 (follow .fresh crossing).2 :=
    Run.of_follow .start hraced
  have hanswers : (play id (follow .fresh crossing).2 [⟨.cancel, 1, 1⟩, ⟨.accept, 2, 1⟩]).1 =
      [(⟨.cancel, 1, 1⟩, .ok .done), (⟨.accept, 2, 1⟩, .ok .done)] := by decide +kernel
  have hindependent := run.moves_independent id
  exact ⟨hanswers, (hindependent.order _ _ (.swap ..) (by decide)).2⟩

end Run

end Market

end BookExchange
