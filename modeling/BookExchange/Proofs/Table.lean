import BookExchange.Store.Table
import Mathlib.Tactic.ByContra

/-! Reading a table after a write: a row is found under its number, and nowhere else. -/
namespace BookExchange.Table
variable {α : Type}

theorem nonpos_or_succ (id : Int) : id ≤ 0 ∨ ∃ n : Nat, id = n + 1 := by
  by_cases h : id ≤ 0
  · exact .inl h
  · exact .inr ⟨(id - 1).toNat, by omega⟩

theorem get?_of_nonpos (t : Table α) {id : Int} (h : id ≤ 0) : t.get? id = none := by
  simp [get?, h]

theorem get?_succ (t : Table α) (n : Nat) : t.get? (n + 1) = t.slots[n]?.join := by
  have h : ¬ (n : Int) + 1 ≤ 0 := by omega
  simp [get?, h]

theorem modify_succ (t : Table α) (n : Nat) (f : α → α) :
    t.modify (n + 1) f = ⟨t.slots.modify n (Option.map f)⟩ := by
  have h : ¬ (n : Int) + 1 ≤ 0 := by omega
  simp [modify, h]

theorem pos_of_get? {t : Table α} {id : Int} {row : α} (h : t.get? id = some row) : 0 < id := by
  by_contra hid
  simp [get?_of_nonpos t (by omega : id ≤ 0)] at h

theorem nextId_pos (t : Table α) : 0 < t.nextId := by
  simp only [nextId]; omega

theorem lt_nextId {t : Table α} {id : Int} {row : α} (h : t.get? id = some row) :
    id < t.nextId := by
  obtain hid | ⟨n, rfl⟩ := nonpos_or_succ id
  · have := t.nextId_pos; omega
  · rw [get?_succ] at h
    have hn : n < t.slots.length := by
      by_contra hge
      simp [List.getElem?_eq_none (by omega : t.slots.length ≤ n)] at h
    simp only [nextId]; omega

@[simp] theorem get?_empty (id : Int) : (empty : Table α).get? id = none := by
  simp [empty, get?]

theorem get?_nextId (t : Table α) : t.get? t.nextId = none := by
  cases h : t.get? t.nextId with
  | none => rfl
  | some row => exact absurd (lt_nextId h) (Int.lt_irrefl _)

theorem get?_insert (t : Table α) (row : α) (id : Int) :
    (t.insert row).get? id = if id = t.nextId then some row else t.get? id := by
  obtain hid | ⟨n, rfl⟩ := nonpos_or_succ id
  · have hne : id ≠ t.nextId := by have := t.nextId_pos; omega
    simp [get?_of_nonpos _ hid, hne]
  · simp only [get?_succ, insert, nextId]
    obtain hlt | heq | hgt := Nat.lt_trichotomy n t.slots.length
    · have hne : (n : Int) + 1 ≠ t.slots.length + 1 := by omega
      rw [List.getElem?_append_left hlt, if_neg hne]
    · subst heq
      simp
    · have hne : (n : Int) + 1 ≠ t.slots.length + 1 := by omega
      rw [List.getElem?_eq_none (by simp; omega), List.getElem?_eq_none (by omega), if_neg hne]

theorem get?_modify (t : Table α) (id : Int) (f : α → α) (j : Int) :
    (t.modify id f).get? j = if j = id then (t.get? j).map f else t.get? j := by
  obtain hj | ⟨m, rfl⟩ := nonpos_or_succ j
  · simp [get?_of_nonpos _ hj]
  · obtain hid | ⟨n, rfl⟩ := nonpos_or_succ id
    · have hne : (m : Int) + 1 ≠ id := by omega
      simp [modify, hid, hne]
    · simp only [modify_succ, get?_succ, List.getElem?_modify]
      by_cases hnm : n = m
      · subst hnm
        cases t.slots[n]? with
        | none => simp
        | some slot => cases slot <;> simp
      · have hne : (m : Int) + 1 ≠ n + 1 := by omega
        simp [hnm, hne]

theorem isSome_get?_modify (t : Table α) (id : Int) (f : α → α) (j : Int) :
    ((t.modify id f).get? j).isSome = (t.get? j).isSome := by
  rw [get?_modify]
  split <;> simp

theorem modify_comm {i j : Int} (h : i ≠ j) (t : Table α) (f g : α → α) :
    (t.modify i f).modify j g = (t.modify j g).modify i f := by
  obtain hi | ⟨m, rfl⟩ := nonpos_or_succ i
  · simp [modify, hi]
  · obtain hj | ⟨n, rfl⟩ := nonpos_or_succ j
    · simp [modify, hj]
    · have hne : m ≠ n := by omega
      simp only [modify_succ, List.modify_modify_ne _ _ _ hne]

/-- What is changed first and shown later can be shown first. -/
theorem map_modify {f f' g : α → α} (h : ∀ row, g (f row) = f' (g row)) (t : Table α) (id : Int) :
    (t.modify id f).map g = (t.map g).modify id f' := by
  obtain hid | ⟨n, rfl⟩ := nonpos_or_succ id
  · simp [modify, hid]
  · simp only [modify_succ, map, Table.mk.injEq]
    refine List.ext_getElem? fun m => ?_
    simp only [List.getElem?_map, List.getElem?_modify]
    rcases t.slots[m]? with _ | _ | row
    · simp
    · by_cases hm : n = m <;> simp [hm]
    · by_cases hm : n = m <;> simp [hm, h]

theorem get?_map (t : Table α) (f : α → α) (id : Int) :
    (t.map f).get? id = (t.get? id).map f := by
  obtain hid | ⟨n, rfl⟩ := nonpos_or_succ id
  · simp [get?_of_nonpos _ hid]
  · simp only [get?_succ, map, List.getElem?_map]
    cases t.slots[n]? with
    | none => rfl
    | some slot => cases slot <;> rfl

theorem get?_erase (t : Table α) (id j : Int) :
    (t.erase id).get? j = if j = id then none else t.get? j := by
  obtain hj | ⟨m, rfl⟩ := nonpos_or_succ j
  · simp [get?_of_nonpos _ hj]
  · obtain hid | ⟨n, rfl⟩ := nonpos_or_succ id
    · have hne : (m : Int) + 1 ≠ id := by omega
      simp [erase, hid, hne]
    · have hpos : ¬ (n : Int) + 1 ≤ 0 := by omega
      have hn : ((n : Int) + 1 - 1).toNat = n := by omega
      simp only [erase, if_neg hpos, hn, get?_succ, List.getElem?_set]
      by_cases hnm : n = m
      · subst hnm
        by_cases hlt : n < t.slots.length <;> simp [hlt]
      · have hne : (m : Int) + 1 ≠ n + 1 := by omega
        simp [hnm, hne]

@[simp] theorem nextId_insert (t : Table α) (row : α) : (t.insert row).nextId = t.nextId + 1 := by
  simp [nextId, insert]

@[simp] theorem nextId_modify (t : Table α) (id : Int) (f : α → α) :
    (t.modify id f).nextId = t.nextId := by
  unfold modify
  split <;> simp [nextId]

@[simp] theorem nextId_erase (t : Table α) (id : Int) : (t.erase id).nextId = t.nextId := by
  unfold erase
  split <;> simp [nextId]

@[simp] theorem nextId_map (t : Table α) (f : α → α) : (t.map f).nextId = t.nextId := by
  simp [nextId, map]

theorem mem_entriesFrom {slots : List (Option α)} {k id : Int} {row : α} :
    (id, row) ∈ entriesFrom k slots ↔ ∃ n : Nat, id = k + n ∧ slots[n]? = some (some row) := by
  induction slots generalizing k with
  | nil => simp [entriesFrom]
  | cons slot rest ih =>
    have hrest : (∃ n : Nat, id = k + 1 + n ∧ rest[n]? = some (some row)) ↔
        ∃ n : Nat, id = k + (n + 1 : Nat) ∧ (slot :: rest)[n + 1]? = some (some row) := by
      simp only [List.getElem?_cons_succ]
      constructor
      · intro h
        obtain ⟨n, hn, hrow⟩ := h
        exact ⟨n, by omega, hrow⟩
      · intro h
        obtain ⟨n, hn, hrow⟩ := h
        exact ⟨n, by omega, hrow⟩
    cases slot with
    | none =>
      rw [entriesFrom, ih, hrest]
      constructor
      · intro h
        obtain ⟨n, hn⟩ := h
        exact ⟨n + 1, hn⟩
      · intro h
        obtain ⟨n, hn⟩ := h
        cases n with
        | zero => simp at hn
        | succ n => exact ⟨n, hn⟩
    | some r =>
      rw [entriesFrom, List.mem_cons, ih, hrest]
      constructor
      · intro h
        obtain h | ⟨n, hn⟩ := h
        · cases h
          exact ⟨0, by simp⟩
        · exact ⟨n + 1, hn⟩
      · intro h
        obtain ⟨n, hn⟩ := h
        cases n with
        | zero => left; simp at hn; simp [hn]
        | succ n => exact .inr ⟨n, hn⟩

/-- The entries are the rows with the numbers under which they are found. -/
theorem mem_entries {t : Table α} {id : Int} {row : α} :
    (id, row) ∈ t.entries ↔ t.get? id = some row := by
  rw [entries, mem_entriesFrom]
  constructor
  · intro h
    obtain ⟨n, rfl, h⟩ := h
    rw [Int.add_comm, get?_succ, h]
    rfl
  · intro h
    obtain hid | ⟨n, rfl⟩ := nonpos_or_succ id
    · simp [get?_of_nonpos t hid] at h
    · rw [get?_succ, Option.join_eq_some_iff] at h
      exact ⟨n, Int.add_comm _ _, h⟩

/-- One number stands in one entry. -/
theorem eq_of_mem_entries {t : Table α} {e e' : Int × α} (h : e ∈ t.entries) (h' : e' ∈ t.entries)
    (hid : e.1 = e'.1) : e = e' := by
  have found := mem_entries.mp h
  rw [hid, mem_entries.mp h', Option.some.injEq] at found
  exact Prod.ext hid found.symm

theorem pairwise_entriesFrom (slots : List (Option α)) (k : Int) :
    (entriesFrom k slots).Pairwise (·.1 < ·.1) := by
  induction slots generalizing k with
  | nil => simp [entriesFrom]
  | cons slot rest ih =>
    cases slot with
    | none => exact ih (k + 1)
    | some row =>
      rw [entriesFrom, List.pairwise_cons]
      refine ⟨fun entry hentry => ?_, ih (k + 1)⟩
      obtain ⟨n, hn, -⟩ := mem_entriesFrom.mp hentry
      show k < entry.1
      omega

/-- The entries stand in ascending order of their numbers. -/
theorem pairwise_entries (t : Table α) : t.entries.Pairwise (·.1 < ·.1) :=
  pairwise_entriesFrom t.slots 1

theorem entriesFrom_concat (slots : List (Option α)) (k : Int) (row : α) :
    entriesFrom k (slots ++ [some row]) = entriesFrom k slots ++ [(k + slots.length, row)] := by
  induction slots generalizing k with
  | nil => simp [entriesFrom]
  | cons slot rest ih =>
    have hindex : k + 1 + (rest.length : Int) = k + ((slot :: rest).length : Nat) := by
      simp only [List.length_cons]
      omega
    cases slot <;> simp [entriesFrom, ih, hindex]

theorem entries_insert (t : Table α) (row : α) :
    (t.insert row).entries = t.entries ++ [(t.nextId, row)] := by
  rw [entries, insert, entriesFrom_concat, nextId, Int.add_comm, entries]

end BookExchange.Table
