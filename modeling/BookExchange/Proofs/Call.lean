import BookExchange.Store.Basic

/-! What a call does to the store, read off its parts. A call that fails must have left no trace:
it looks first and writes last, or it is a transaction. -/
namespace BookExchange

/-- The same tables, while another connection holds the write lock or while none does. -/
def Store.withLock (s : Store) (held : Bool) : Store := { s with locked := held }

namespace Call
variable {α β : Type} {s t : Store}

/-- What a call answers and the store that it leaves. -/
def outcome (c : Call α) (s : Store) : Except Failure α × Store := c s

theorem outcome_bind (c : Call α) (k : α → Call β) (s : Store) :
    outcome (c >>= k) s = match outcome c s with
      | (.ok a, t) => outcome (k a) t
      | (.error e, t) => (.error e, t) := by
  simp only [outcome, bind, ExceptT.bind, ExceptT.mk, StateT.bind]
  obtain ⟨_ | _, t⟩ := c s <;> rfl

theorem outcome_map (f : α → β) (c : Call α) (s : Store) :
    outcome (f <$> c) s = match outcome c s with
      | (.ok a, t) => (.ok (f a), t)
      | (.error e, t) => (.error e, t) := by
  simp only [map_eq_pure_bind, outcome_bind]
  rfl

@[simp] theorem outcome_pure (a : α) (s : Store) : outcome (pure a) s = (.ok a, s) := rfl

@[simp] theorem outcome_throw (e : Failure) (s : Store) :
    outcome (throw e : Call α) s = (.error e, s) := rfl

@[simp] theorem outcome_lift (r : Except Failure α) (s : Store) :
    outcome (liftM r) s = (r, s) := by
  cases r <;> rfl

@[simp] theorem outcome_read (f : Store → Except Failure α) (s : Store) :
    outcome (read f) s = (f s, s) := rfl

@[simp] theorem outcome_ite (p : Prop) [Decidable p] (c d : Call α) (s : Store) :
    outcome (if p then c else d) s = if p then outcome c s else outcome d s := by
  split <;> rfl

theorem outcome_write (f : Store → Except Failure (α × Store)) (s : Store) :
    outcome (write f) s = if s.locked then (.error .locked, s) else
      match f s with
      | .ok (a, t) => (.ok a, t)
      | .error e => (.error e, s) := by
  rfl

theorem outcome_transaction (c : Call α) (s : Store) :
    outcome (transaction c) s = match outcome c s with
      | (.ok a, t) => (.ok a, t)
      | (.error e, _) => (.error e, s) := by
  rfl

/-! Calls that succeed. -/

theorem ok_of_isOk {c : Call α} (h : (outcome c s).1.isOk) : ∃ a t, outcome c s = (.ok a, t) := by
  cases hc : outcome c s with
  | mk r t =>
    cases r with
    | error e => simp [hc, Except.isOk, Except.toBool] at h
    | ok a => exact ⟨a, t, rfl⟩

theorem bind_eq_ok {c : Call α} {k : α → Call β} {b : β} :
    outcome (c >>= k) s = (.ok b, t) ↔
      ∃ a u, outcome c s = (.ok a, u) ∧ outcome (k a) u = (.ok b, t) := by
  rw [outcome_bind]
  obtain ⟨_ | a, u⟩ := outcome c s
  · simp
  · constructor
    · intro h
      exact ⟨a, u, rfl, h⟩
    · intro h
      obtain ⟨_, _, h, hk⟩ := h
      cases h
      exact hk

theorem map_eq_ok {f : α → β} {c : Call α} {b : β} :
    outcome (f <$> c) s = (.ok b, t) ↔ ∃ a, outcome c s = (.ok a, t) ∧ f a = b := by
  rw [map_eq_pure_bind, bind_eq_ok]
  constructor
  · intro h
    obtain ⟨a, u, h, hf⟩ := h
    cases hf
    exact ⟨a, h, rfl⟩
  · intro h
    obtain ⟨a, h, rfl⟩ := h
    exact ⟨a, t, h, rfl⟩

theorem except_bind_eq_ok {r : Except Failure α} {k : α → Except Failure β} {b : β} :
    (r >>= k) = .ok b ↔ ∃ a, r = .ok a ∧ k a = .ok b := by
  cases r <;> simp [bind, Except.bind]

/-- Behind an answer without content stands the call alone. -/
theorem then_pure_eq_ok {c : Call Unit} {a b : β} :
    outcome (do c; return b) s = (.ok a, t) ↔ outcome c s = (.ok (), t) ∧ b = a := by
  rw [bind_eq_ok]
  constructor
  · intro h
    obtain ⟨⟨⟩, u, h, hb⟩ := h
    cases hb
    exact ⟨h, rfl⟩
  · intro h
    obtain ⟨h, rfl⟩ := h
    exact ⟨(), t, h, rfl⟩

theorem write_eq_ok {f : Store → Except Failure (α × Store)} {a : α} :
    outcome (write f) s = (.ok a, t) ↔ s.locked = false ∧ f s = .ok (a, t) := by
  rw [outcome_write]
  cases s.locked
  · obtain _ | ⟨b, u⟩ := f s <;> simp
  · simp

theorem transaction_eq_ok {c : Call α} {a : α} :
    outcome (transaction c) s = (.ok a, t) ↔ outcome c s = (.ok a, t) := by
  rw [outcome_transaction]
  obtain ⟨_ | b, u⟩ := outcome c s <;> simp

/-- The call never succeeds. -/
def Refuses (c : Call α) : Prop := ∀ s a t, outcome c s ≠ (.ok a, t)

theorem refuses_throw (e : Failure) : Refuses (throw e : Call α) := by
  intro s a t h
  simp at h

theorem refuses_bind {c : Call α} {k : α → Call β} (hk : ∀ a, Refuses (k a)) :
    Refuses (c >>= k) := by
  intro s b t h
  obtain ⟨a, u, _, ha⟩ := bind_eq_ok.mp h
  exact hk a u b t ha

section Update
variable {get? : Store → Option β} {condition : Store → β → Bool} {put : Store → Store}

theorem update_eq_true :
    outcome (update get? condition put) s = (.ok true, t) ↔
      s.locked = false ∧ ∃ row, get? s = some row ∧ condition s row ∧ t = (put s).tick := by
  rw [update, write_eq_ok]
  cases get? s with
  | none => simp
  | some row => cases h : condition s row <;> simp [h, @eq_comm _ t]

theorem update_eq_false :
    outcome (update get? condition put) s = (.ok false, t) ↔
      s.locked = false ∧ t = s ∧ ∀ row, get? s = some row → condition s row = false := by
  rw [update, write_eq_ok]
  cases get? s with
  | none => simp [@eq_comm _ t]
  | some row => cases h : condition s row <;> simp [h, @eq_comm _ t]

/-- When nothing but a refusal follows an update that found no row, success means that it found
one. -/
theorem update_bind_eq_ok {k : Bool → Call α} (hk : Refuses (k false)) {a : α} :
    outcome (update get? condition put >>= k) s = (.ok a, t) ↔
      s.locked = false ∧ ∃ row, get? s = some row ∧ condition s row ∧
        outcome (k true) (put s).tick = (.ok a, t) := by
  rw [bind_eq_ok]
  constructor
  · intro h
    obtain ⟨done, u, hu, ht⟩ := h
    cases done with
    | false => exact absurd ht (hk _ _ _)
    | true =>
      obtain ⟨hl, row, hrow, hc, rfl⟩ := update_eq_true.mp hu
      exact ⟨hl, row, hrow, hc, ht⟩
  · intro h
    obtain ⟨hl, row, hrow, hc, ht⟩ := h
    exact ⟨true, _, update_eq_true.mpr ⟨hl, row, hrow, hc, rfl⟩, ht⟩

end Update

/-! Calls that fail. -/

/-- The call only looks. -/
def Quiet (c : Call α) : Prop := ∀ s, (outcome c s).2 = s

/-- The call only looks, and sees the same in both stores. -/
def Same (s t : Store) (c : Call α) : Prop := ∃ r, outcome c s = (r, s) ∧ outcome c t = (r, t)

/-- The first thing that the call does is a write statement. -/
inductive Opens : {α : Type} → Call α → Prop where
  | write {α : Type} (f : Store → Except Failure (α × Store)) : Opens (write f)
  | bind {α β : Type} {c : Call α} (first : Opens c) (k : α → Call β) : Opens (c >>= k)
  | transaction {α : Type} {c : Call α} (first : Opens c) : Opens (transaction c)

/-- The call leaves no trace when it fails. -/
def Atomic (c : Call α) : Prop := ∀ s e t, outcome c s = (.error e, t) → t = s

theorem quiet_throw (e : Failure) : Quiet (throw e : Call α) := fun _ => rfl

theorem quiet_read (f : Store → Except Failure α) : Quiet (read f) := fun _ => rfl

theorem Quiet.bind {c : Call α} {k : α → Call β} (hc : Quiet c) (hk : ∀ a, Quiet (k a)) :
    Quiet (c >>= k) := by
  intro s
  have hs := hc s
  rw [outcome_bind]
  cases h : outcome c s with
  | mk r u =>
    rw [h] at hs
    cases r with
    | error e => exact hs
    | ok a => exact (hk a u).trans hs

theorem same_pure (a : α) : Same s t (pure a) := ⟨_, rfl, rfl⟩

theorem same_throw (e : Failure) : Same s t (throw e : Call α) := ⟨_, rfl, rfl⟩

theorem same_lift (r : Except Failure α) : Same s t (liftM r : Call α) :=
  ⟨r, outcome_lift r s, outcome_lift r t⟩

theorem same_read {f : Store → Except Failure α} (h : f s = f t) : Same s t (read f) :=
  ⟨f s, rfl, by rw [outcome_read, h]⟩

theorem Same.bind {c : Call α} {k : α → Call β} (hc : Same s t c) (hk : ∀ a, Same s t (k a)) :
    Same s t (c >>= k) := by
  obtain ⟨r, hs, ht⟩ := hc
  cases r with
  | error e => exact ⟨.error e, by rw [outcome_bind, hs], by rw [outcome_bind, ht]⟩
  | ok a =>
    obtain ⟨r, hs', ht'⟩ := hk a
    exact ⟨r, by simp only [outcome_bind, hs, hs'], by simp only [outcome_bind, ht, ht']⟩

theorem Same.map {c : Call α} (hc : Same s t c) (f : α → β) : Same s t (f <$> c) := by
  rw [map_eq_pure_bind]
  exact hc.bind fun _ => same_pure _

theorem Same.unchanged {c : Call α} (hc : Same s t c) : (outcome c s).2 = s := by
  obtain ⟨r, hs, -⟩ := hc
  rw [hs]

theorem Same.outcome_eq {c : Call α} (hc : Same s t c) {r : Except Failure α}
    (h : outcome c s = (r, s)) : outcome c t = (r, t) := by
  obtain ⟨r', hs, ht⟩ := hc
  cases hs.symm.trans h
  exact ht

theorem Opens.map {c : Call α} (hc : Opens c) (f : α → β) : Opens (f <$> c) := by
  rw [map_eq_pure_bind]
  exact hc.bind _

/-- A write statement is refused while the lock is held, and so is the whole call. -/
theorem Opens.blocked {c : Call α} (hc : Opens c) (held : s.locked) :
    outcome c s = (.error .locked, s) := by
  induction hc with
  | write f => rw [outcome_write, if_pos held]
  | bind first k ih => rw [outcome_bind, ih]
  | transaction first ih => rw [outcome_transaction, ih]

theorem atomic_write (f : Store → Except Failure (α × Store)) : Atomic (write f) := by
  intro s e t h
  rw [outcome_write] at h
  cases hl : s.locked with
  | true =>
    simp only [hl, ↓reduceIte, Prod.mk.injEq] at h
    exact h.2.symm
  | false =>
    cases hf : f s with
    | error e' =>
      simp only [hl, hf, Bool.false_eq_true, ↓reduceIte, Prod.mk.injEq] at h
      exact h.2.symm
    | ok r => simp [hl, hf] at h

theorem atomic_transaction (c : Call α) : Atomic (transaction c) := by
  intro s e t h
  rw [outcome_transaction] at h
  cases hc : outcome c s with
  | mk r u =>
    cases r with
    | error e' =>
      simp only [hc, Prod.mk.injEq] at h
      exact h.2.symm
    | ok a => simp [hc] at h

theorem Atomic.map {c : Call α} (hc : Atomic c) (f : α → β) : Atomic (f <$> c) := by
  intro s e t h
  rw [outcome_map] at h
  cases hs : outcome c s with
  | mk r u =>
    cases r with
    | error e' =>
      simp only [hs, Prod.mk.injEq] at h
      exact h.2 ▸ hc _ _ _ hs
    | ok a => simp [hs] at h

/-- An answer without content may follow. -/
theorem Atomic.then_pure {c : Call α} (hc : Atomic c) (b : β) :
    Atomic (c >>= fun _ => pure b) := by
  have h := hc.map fun _ => b
  rwa [map_eq_pure_bind] at h

/-- A statement that found no row leaves the store as it is, so the call may still look and refuse;
one that did something ends the call. -/
theorem Atomic.bind_found {c : Call Bool} {k : Bool → Call α} (hc : Atomic c)
    (hnone : ∀ s t, outcome c s = (.ok false, t) → t = s)
    (hdone : ∀ s, (outcome (k true) s).1.isOk) (hfailed : Quiet (k false)) : Atomic (c >>= k) := by
  intro s e t h
  rw [outcome_bind] at h
  cases hu : outcome c s with
  | mk r u =>
    cases r with
    | error e' =>
      simp only [hu] at h
      cases h
      exact hc _ _ _ hu
    | ok found =>
      simp only [hu] at h
      cases found with
      | true =>
        have hok := hdone u
        rw [h] at hok
        cases hok
      | false =>
        have hus := hnone _ _ hu
        have htu := hfailed u
        rw [h] at htu
        exact htu.trans hus

theorem atomic_update_bind {get? : Store → Option β} {condition : Store → β → Bool}
    {put : Store → Store} {k : Bool → Call α} (hdone : ∀ s, (outcome (k true) s).1.isOk)
    (hfailed : Quiet (k false)) : Atomic (update get? condition put >>= k) :=
  (atomic_write _).bind_found (fun _ _ h => (update_eq_false.mp h).2.1) hdone hfailed

end Call

end BookExchange
