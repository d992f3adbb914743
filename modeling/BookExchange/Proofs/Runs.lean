import BookExchange.Proofs.Transitions
import Mathlib.Data.List.Chain

/-! Runs: any commands, one after the other. What a caller may ask for can depend on all the stores
so far, for a caller that has lost a race acts on what it read earlier. -/
namespace BookExchange

namespace Market
open Call

/-- A command together with the store that it was given to. -/
structure Event where
  store : Store
  command : Command

namespace Event

def answer (v : Event) : Except Failure Answer := v.command.answer v.store

def after (v : Event) : Store := v.command.after v.store

end Event

/-- The stores of a run up to the present one. -/
def seen (log : List Event) (s : Store) : List Store := log.map (·.store) ++ [s]

/-- The commands of the log were given in this order and led from one store to the other. -/
inductive Run (allowed : List Store → Command → Prop) (start : Store) : List Event → Store → Prop where
  | start : Run allowed start [] start
  | step {log : List Event} {s : Store} (c : Command) (run : Run allowed start log s)
      (ok : allowed (seen log s) c) : Run allowed start (log ++ [⟨s, c⟩]) (c.after s)

/-- What callers that race each other ask of the ports: anything, but an exchange is moved on as some
store showed it, and a book changes its status or its owner only together with an exchange. -/
def Port.Raced (stores : List Store) : Port → Prop
  | .acceptExchange e | .completeExchange e | .cancelExchange e => ∃ s ∈ stores, s.Shows e
  | .reserve _ | .release _ | .transfer _ _ => False
  | _ => True

def Command.Raced (stores : List Store) : Command → Prop
  | .service _ _ => True
  | .port p => p.Raced stores

/-- The command asks a service. -/
def Command.IsService : Command → Prop
  | .service _ _ => True
  | .port _ => False

/-- Gives the commands to the store. -/
def follow (s : Store) : List Command → List Event × Store
  | [] => ([], s)
  | c :: cs => (⟨s, c⟩ :: (follow (c.after s) cs).1, (follow (c.after s) cs).2)

variable {allowed : List Store → Command → Prop} {start s t : Store} {log : List Event}

theorem mem_seen : s ∈ seen log s := by
  simp [seen]

theorem seen_concat {c : Command} : seen (log ++ [⟨s, c⟩]) t = seen log s ++ [t] := by
  simp [seen]

theorem Run.of_follow {cs : List Command} (run : Run allowed start log s)
    (ok : ∀ stores, ∀ c ∈ cs, allowed stores c) :
    Run allowed start (log ++ (follow s cs).1) (follow s cs).2 := by
  induction cs generalizing log s with
  | nil => simpa [follow] using run
  | cons c cs ih =>
    have hc := run.step c (ok _ c List.mem_cons_self)
    have hcs := ih hc fun stores d hd => ok stores d (List.mem_cons_of_mem _ hd)
    simpa [follow] using hcs

theorem Command.IsService.raced {c : Command} {stores : List Store} (h : c.IsService) :
    c.Raced stores := by
  cases c with
  | service summarize op => trivial
  | port p => exact h.elim

theorem run_services (s : Store) (cs : List Command) (h : ∀ c ∈ cs, c.IsService) :
    Run (fun _ => Command.IsService) s (follow s cs).1 (follow s cs).2 :=
  Run.of_follow .start fun _ => h

/-- One run goes on where another ended; what it may ask for the whole run may. -/
theorem Run.append {allowed' : List Store → Command → Prop} {since : List Event}
    (run : Run allowed start log s) (later : Run allowed' s since t)
    (ok : ∀ stores stores' c, allowed' stores c → allowed stores' c) :
    Run allowed start (log ++ since) t := by
  induction later with
  | start => simpa using run
  | @step since t c later hc ih =>
    have hstep := ih.step c (ok _ _ c hc)
    rwa [List.append_assoc] at hstep

/-- Callers that race each other may ask the services for anything. -/
theorem Run.raced (run : Run (fun _ => Command.IsService) start log s) :
    Run Command.Raced start log s :=
  Run.start.append run fun _ _ _ => Command.IsService.raced

theorem Run.seen_eq_cons (run : Run allowed start log s) : ∃ rest, seen log s = start :: rest := by
  induction run with
  | start => exact ⟨[], rfl⟩
  | step c run ok ih =>
    obtain ⟨rest, hrest⟩ := ih
    rw [seen_concat, hrest]
    exact ⟨_, rfl⟩

/-- What holds at the start and survives every command holds in the end. -/
theorem Run.preserves {P : Store → Prop} (run : Run allowed start log s) (hstart : P start)
    (hstep : ∀ t c, P t → P (Command.after c t)) : P s := by
  induction run with
  | start => exact hstart
  | step c run ok ih => exact hstep _ c ih

/-- What holds at the start and survives every write that is allowed holds in the end. -/
theorem Run.preserves_written {P : Store → Prop} (run : Run allowed start log s) (hstart : P start)
    (hstep : ∀ {log t c p u}, Run allowed start log t → allowed (seen log t) c →
      Command.Calls t c p → p.Writes t u → P t → P u) : P s := by
  induction run with
  | start => exact hstart
  | step c run ok ih =>
    obtain unchanged | ⟨p, calls, hw⟩ := c.after_cases _
    · rwa [unchanged]
    · exact hstep run ok calls hw ih

/-- What held of a store that was seen and survives every command holds in the end. -/
theorem Run.preserves_since {P : Store → Prop} (run : Run allowed start log s) (ht : t ∈ seen log s)
    (holds : P t) (hstep : ∀ u c, P u → P (Command.after c u)) : P s := by
  induction run with
  | start =>
    simp only [seen, List.map_nil, List.nil_append, List.mem_singleton] at ht
    exact ht ▸ holds
  | step c run ok ih =>
    rw [seen_concat, List.mem_append, List.mem_singleton] at ht
    obtain ht | rfl := ht
    · exact hstep _ c (ih ht)
    · exact holds

/-- What relates the store before a command to the one after it links all the stores. -/
theorem Run.isChain {R : Store → Store → Prop} (run : Run allowed start log s)
    (hstep : ∀ log t c, Run allowed start log t → R t (Command.after c t)) :
    (seen log s).IsChain R := by
  induction run with
  | start => simp [seen]
  | @step log s c run ok ih =>
    rw [seen_concat, List.isChain_append]
    refine ⟨ih, by simp, ?_⟩
    simp only [seen, List.getLast?_append, List.getLast?_singleton, List.head?_cons]
    intro t' ht' u' hu'
    cases ht'
    cases hu'
    exact hstep log s c run

/-- Every store that was seen ended a run of its own. -/
theorem Run.of_mem_seen (run : Run allowed start log s) (h : t ∈ seen log s) :
    ∃ log', Run allowed start log' t := by
  induction run with
  | start =>
    simp only [seen, List.map_nil, List.nil_append, List.mem_singleton] at h
    exact ⟨[], h ▸ .start⟩
  | step c run ok ih =>
    rw [seen_concat, List.mem_append, List.mem_singleton] at h
    obtain h | rfl := h
    · exact ih h
    · exact ⟨_, run.step c ok⟩

/-- Every event of a run was allowed after a run of its own. -/
theorem Run.of_mem_log {v : Event} (run : Run allowed start log s) (h : v ∈ log) :
    ∃ log', Run allowed start log' v.store ∧ allowed (seen log' v.store) v.command := by
  induction run with
  | start => simp at h
  | @step log s c run ok ih =>
    rw [List.mem_append, List.mem_singleton] at h
    obtain h | rfl := h
    · exact ih h
    · exact ⟨log, run, ok⟩

theorem Run.after_mem_seen {v : Event} (run : Run allowed start log s) (h : v ∈ log) :
    v.after ∈ seen log s := by
  induction run with
  | start => simp at h
  | @step log s c run ok ih =>
    rw [seen_concat, List.mem_append, List.mem_singleton]
    rw [List.mem_append, List.mem_singleton] at h
    obtain h | rfl := h
    · exact .inl (ih h)
    · exact .inr rfl

theorem Port.Writes.locked {p : Port} (h : p.Writes s t) : t.locked = s.locked := by
  cases h <;> rfl

theorem Command.after_locked (c : Command) (s : Store) : (c.after s).locked = s.locked := by
  obtain h | ⟨p, -, h⟩ := c.after_cases s
  · rw [h]
  · exact h.locked

/-- No other connection takes the lock during a run. -/
theorem Run.unlocked (run : Run allowed .fresh log s) : s.locked = false :=
  run.preserves (P := (·.locked = false)) rfl fun t c ht => (c.after_locked t).trans ht

theorem Command.Calls.raced {c : Command} {p : Port} {stores : List Store} (h : c.Calls s p)
    (ok : c.Raced stores) (hs : s ∈ stores) : p.Raced stores := by
  cases h with
  | port => exact ok
  | service reached =>
    have hshows := reached.shows
    cases reached with
    | acceptExchange => exact ⟨s, hs, hshows⟩
    | completeExchange => exact ⟨s, hs, hshows⟩
    | cancelExchange => exact ⟨s, hs, hshows⟩
    | _ => trivial

/-! Two users exchange a book each, and one of them completes the exchange twice. -/

def opening : List Command :=
  [.service id (.createUser ⟨"Ana", "ana@example.org", "Porto", ""⟩),
    .service id (.createUser ⟨"Rui", "rui@example.org", "Porto", ""⟩),
    .service id (.createBook 1 ⟨"Dune", "Herbert", "", none, []⟩),
    .service id (.createBook 2 ⟨"Emma", "Austen", "", none, []⟩),
    .service id (.createExchange 1 ⟨2, 1, 2⟩)]

def acceptance : List Command := opening ++ [.service id (.acceptExchange 1 2)]

def completion : List Command := acceptance ++ [.service id (.completeExchange 1 1)]

/-- Another caller has read the exchange before it was completed. -/
def secondCompletion : Command := .port (.completeExchange ⟨1, 1, 2, 1, 2, .accepted, none, 6, 7⟩)

theorem run_opening :
    Run Command.Raced .fresh (follow .fresh opening).1 (follow .fresh opening).2 := by
  have h : ∀ stores, ∀ c ∈ opening, c.Raced stores := by simp [opening, Command.Raced]
  exact Run.of_follow .start h

theorem run_completion :
    Run Command.Raced .fresh (follow .fresh completion).1 (follow .fresh completion).2 := by
  have h : ∀ stores, ∀ c ∈ completion, c.Raced stores := by
    simp [completion, acceptance, opening, Command.Raced]
  exact Run.of_follow .start h

theorem run_secondCompletion :
    Run Command.Raced .fresh
      ((follow .fresh completion).1 ++ [⟨(follow .fresh completion).2, secondCompletion⟩])
      (secondCompletion.after (follow .fresh completion).2) := by
  have hseen : (follow .fresh acceptance).2 ∈
      seen (follow .fresh completion).1 (follow .fresh completion).2 := by decide +kernel
  have hrow : (follow .fresh acceptance).2.exchanges.get? 1 =
      some ⟨1, 2, 1, 2, .known .accepted, none, 6, 7⟩ := by decide +kernel
  have hread := Store.exchange?_eq_some.mpr ⟨_, .accepted, hrow, rfl, rfl⟩
  exact run_completion.step _ ⟨_, hseen, Store.shows_of_exchange? hread rfl⟩

end Market

end BookExchange
