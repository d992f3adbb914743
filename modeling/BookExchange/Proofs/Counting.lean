import BookExchange.Proofs.Table
import Mathlib.Algebra.BigOperators.Group.List.Basic
import Mathlib.Algebra.GroupWithZero.Nat

/-! How many rows of a table there are of one kind, and how a write changes their number. -/
namespace BookExchange.Table
variable {α : Type}

/-- How many rows satisfy `p`. -/
def count (t : Table α) (p : α → Bool) : Nat := t.entries.countP fun e => p e.2

theorem countP_entriesFrom (slots : List (Option α)) (k : Int) (p : α → Bool) :
    (entriesFrom k slots).countP (fun e => p e.2) = slots.countP (·.any p) := by
  induction slots generalizing k with
  | nil => rfl
  | cons slot rest ih => cases slot <;> simp [entriesFrom, List.countP_cons, ih]

theorem count_eq (t : Table α) (p : α → Bool) : t.count p = t.slots.countP (·.any p) :=
  countP_entriesFrom ..

theorem count_insert (t : Table α) (row : α) (p : α → Bool) :
    (t.insert row).count p = t.count p + (p row).toNat := by
  cases h : p row <;> simp [count_eq, insert, List.countP_append, h]

theorem count_map {p q : α → Bool} (t : Table α) (f : α → α) (h : ∀ row, p (f row) = q row) :
    (t.map f).count p = t.count q := by
  rw [count_eq, count_eq, map, List.countP_map]
  refine List.countP_congr fun slot _ => ?_
  cases slot <;> simp [h]

theorem countP_modify (slots : List (Option α)) (n : Nat) (f : α → α) (p : α → Bool) :
    (slots.modify n (Option.map f)).countP (·.any p) + (slots[n]?.join.any p).toNat =
      slots.countP (·.any p) + (slots[n]?.join.any (p ∘ f)).toNat := by
  induction slots generalizing n with
  | nil => simp
  | cons slot rest ih =>
    cases n with
    | zero =>
      cases slot with
      | none => simp
      | some row => cases h : p row <;> cases h' : p (f row) <;> simp [h, h']
    | succ n =>
      have hrest := ih n
      simp only [List.modify_succ_cons, List.countP_cons, List.getElem?_cons_succ]
      omega

/-- The row counts as what it was before the change, and as what it has become after it. -/
theorem count_modify (t : Table α) (id : Int) (f : α → α) (p : α → Bool) :
    (t.modify id f).count p + ((t.get? id).any p).toNat =
      t.count p + ((t.get? id).any (p ∘ f)).toNat := by
  obtain hid | ⟨n, rfl⟩ := nonpos_or_succ id
  · simp [modify, get?_of_nonpos _ hid, hid]
  · simpa only [modify_succ, get?_succ, count_eq] using countP_modify t.slots n f p

theorem count_modify_of_get? {t : Table α} {id : Int} {row : α} (found : t.get? id = some row)
    (f : α → α) (p : α → Bool) :
    (t.modify id f).count p + (p row).toNat = t.count p + (p (f row)).toNat := by
  simpa only [found, Option.any_some, Function.comp_apply] using t.count_modify id f p

/-- A change that leaves the kind of every row. -/
theorem count_modify_of_eq (t : Table α) (id : Int) {f : α → α} {p : α → Bool}
    (h : ∀ row, p (f row) = p row) : (t.modify id f).count p = t.count p := by
  have hcount := t.count_modify id f p
  rw [show p ∘ f = p from funext h] at hcount
  omega

/-- There is one row under each number at most. -/
theorem countP_id (t : Table α) (id : Int) :
    t.entries.countP (fun e => id == e.1) = (t.get? id).isSome.toNat := by
  have hnodup : (t.entries.map (·.1)).Nodup :=
    List.pairwise_map.mpr (t.pairwise_entries.imp fun h => Int.ne_of_lt h)
  have hmem : id ∈ t.entries.map (·.1) ↔ (t.get? id).isSome := by
    simp [Option.isSome_iff_exists, mem_entries]
  have hcount : t.entries.countP (fun e => id == e.1) = (t.entries.map (·.1)).count id := by
    rw [List.count_eq_countP, List.countP_map]
    refine List.countP_congr fun e _ => ?_
    simp only [Function.comp_apply, beq_iff_eq]
    exact eq_comm
  rw [hcount, hnodup.count]
  cases h : (t.get? id).isSome <;> simp [hmem, h]

theorem countP_or {xs : List α} {p q : α → Bool} (apart : ∀ x ∈ xs, p x → q x = false) :
    xs.countP (fun x => p x || q x) = xs.countP p + xs.countP q := by
  induction xs with
  | nil => rfl
  | cons x xs ih =>
    obtain ⟨hx, hxs⟩ := List.forall_mem_cons.mp apart
    simp only [List.countP_cons, ih hxs]
    cases hp : p x with
    | false => simp [Nat.add_assoc]
    | true => simp [hx hp]; omega

theorem sum_map_add_ite (xs : List α) (g : α → Nat) (p : α → Bool) :
    (xs.map fun x => g x + if p x then 1 else 0).sum = (xs.map g).sum + xs.countP p := by
  induction xs with
  | nil => rfl
  | cons x xs ih =>
    simp only [List.map_cons, List.sum_cons, List.countP_cons, ih]
    omega

/-- Counting the pairs of a relation by their first or by their second element. -/
theorem sum_countP_comm {β : Type} (xs : List α) (ys : List β) (r : α → β → Bool) :
    (xs.map fun x => ys.countP (r x)).sum = (ys.map fun y => xs.countP (r · y)).sum := by
  induction ys with
  | nil => simp
  | cons y ys ih => simp only [List.countP_cons, sum_map_add_ite, ih, List.map_cons, List.sum_cons,
      Nat.add_comm]

theorem sum_map_eq_mul_countP {xs : List α} {g : α → Nat} {p : α → Bool} {n : Nat}
    (h : ∀ x ∈ xs, g x = if p x then n else 0) : (xs.map g).sum = n * xs.countP p := by
  induction xs with
  | nil => rfl
  | cons x xs ih =>
    obtain ⟨hx, hxs⟩ := List.forall_mem_cons.mp h
    rw [List.map_cons, List.sum_cons, ih hxs, hx, List.countP_cons, Nat.mul_add]
    split <;> omega

end BookExchange.Table
