import BookExchange.Proofs.Runs
import Mathlib.Data.List.Perm.Basic
import Mathlib.Logic.Function.Basic

/-! An account is changed in two steps: it is read, and then every field is saved, the changed ones
and the others. Callers that change the same account may come in between each other's steps, and what
the one saves then undoes what the other has saved. -/
namespace BookExchange
open Call Text

namespace User

/-- They are one account at two times. -/
def SameAccount (u v : User) : Prop := u.id = v.id ∧ u.createdAt = v.createdAt

namespace Change
variable {c d : Change} {u : User}

/-- No field is present in both. -/
structure Disjoint (c d : Change) : Prop where
  name : c.name = none ∨ d.name = none
  email : c.email = none ∨ d.email = none
  city : c.city = none ∨ d.city = none
  address : c.address = none ∨ d.address = none

/-- The fields that are present in one or the other. -/
def merge (c d : Change) : Change where
  name := c.name <|> d.name
  email := c.email <|> d.email
  city := c.city <|> d.city
  address := c.address <|> d.address

theorem apply_sameAccount (c : Change) {v : User} (h : v.SameAccount u) :
    (c.apply v).SameAccount u := h

/-- Of two changes of a field the later one decides, if it has a value. -/
theorem field_merge (x y : Option String) (z : String) :
    ((x <|> y).map trim).getD z = (x.map trim).getD ((y.map trim).getD z) := by
  cases x <;> rfl

theorem merge_apply : (c.merge d).apply u = c.apply (d.apply u) := by
  simp only [apply, merge, field_merge]

theorem field_comm {x y : Option String} (h : x = none ∨ y = none) : (x <|> y) = (y <|> x) := by
  obtain rfl | rfl := h
  · cases y <;> rfl
  · cases x <;> rfl

theorem Disjoint.merge_comm (h : c.Disjoint d) : c.merge d = d.merge c := by
  simp only [merge, field_comm h.name, field_comm h.email, field_comm h.city, field_comm h.address]

theorem Disjoint.symm (h : c.Disjoint d) : d.Disjoint c :=
  ⟨h.name.symm, h.email.symm, h.city.symm, h.address.symm⟩

theorem field_eq_iff {x y : Option String} (h : x = none ∨ y = none) (z : String) :
    (x.map trim).getD ((y.map trim).getD z) = (x.map trim).getD z ↔ (y.map trim).getD z = z := by
  obtain rfl | rfl := h <;> simp

/-- One change alone does what both do when the other one changes nothing. -/
theorem Disjoint.apply_eq_iff (h : c.Disjoint d) :
    c.apply (d.apply u) = c.apply u ↔ d.apply u = u := by
  obtain ⟨id, name, email, city, address, createdAt⟩ := u
  simp only [apply, User.mk.injEq, field_eq_iff h.name, field_eq_iff h.email, field_eq_iff h.city,
    field_eq_iff h.address]

end Change

end User

theorem UserRow.view_save {row : UserRow} {id : UserId} {v : User}
    (same : v.SameAccount (row.view id)) : (row.save v).view id = v := by
  obtain ⟨hid, hcreated⟩ := same
  simp only [UserRow.view] at hid hcreated
  simp only [UserRow.view, save, ← hid, ← hcreated]

namespace Store
variable {s t : Store} {u v w : User}

theorem saveUser_ok (h : outcome (saveUser v) s = (.ok w, t)) :
    w = v ∧ (Market.Port.saveUser v).Writes s t := by
  refine ⟨?_, Market.Port.writes_saveUser h⟩
  rw [saveUser, bind_eq_ok] at h
  obtain ⟨saved, _, -, h⟩ := h
  cases saved with
  | false => simp at h
  | true =>
    simp only [↓reduceIte, outcome_pure, Prod.mk.injEq, Except.ok.injEq] at h
    exact h.1.symm

theorem user?_saveUser (h : (Market.Port.saveUser v).Writes s t) (hu : s.user? v.id = some u)
    (same : v.SameAccount u) : t.user? v.id = some v := by
  obtain ⟨row, found, live, rfl⟩ := user?_eq_some.mp hu
  cases h
  exact user?_eq_some.mpr
    ⟨row.save v, by simp [Table.get?_modify, found], live, UserRow.view_save same⟩

end Store

namespace Market
variable {ι : Type} [DecidableEq ι] {id : UserId} {s t : Store} {u : User}

/-- A caller that changes the account: before it reads, before it saves, and afterwards. -/
inductive Caller where
  | ready (c : User.Change)
  | looked (c : User.Change) (seen : User)
  | done (saved : User)

namespace Caller

/-- One step of the caller. -/
def turn (id : UserId) : Caller → Call Caller
  | .ready c => do
    c.validate
    return .looked c (← getUser id)
  | .looked c seen => .done <$> Store.saveUser (c.apply seen)
  | .done saved => return .done saved

/-- Two turns without another caller in between are the service. -/
theorem turn_turn (c : User.Change) :
    (do turn id (← turn id (.ready c))) = .done <$> updateUser id id c := by
  simp [turn, updateUser]

/-- What a step makes of the caller and of the account as the caller finds it. -/
def next (u : User) : Caller → Caller × User
  | .ready c => (.looked c u, u)
  | .looked c seen => (.done (c.apply seen), c.apply seen)
  | .done saved => (.done saved, u)

/-- What the caller has seen is the account at some time. -/
def Knows (u : User) : Caller → Prop
  | .looked _ seen => seen.SameAccount u
  | _ => True

variable {caller caller' : Caller}

theorem turn_ok (h : outcome (caller.turn id) s = (.ok caller', t)) (hu : s.user? id = some u)
    (knows : caller.Knows u) :
    caller' = (caller.next u).1 ∧ t.user? id = some (caller.next u).2 := by
  cases caller with
  | ready c =>
    obtain ⟨⟨⟩, s', hvalid, h⟩ := bind_eq_ok.mp h
    rw [outcome_lift, Prod.mk.injEq] at hvalid
    obtain ⟨-, rfl⟩ := hvalid
    simp only [getUser, outcome_bind, outcome_read, hu, outcome_pure, Prod.mk.injEq,
      Except.ok.injEq] at h
    obtain ⟨rfl, rfl⟩ := h
    exact ⟨rfl, hu⟩
  | looked c seen =>
    obtain ⟨saved, hsave, rfl⟩ := map_eq_ok.mp h
    obtain ⟨rfl, written⟩ := Store.saveUser_ok hsave
    obtain ⟨row, -, -, rfl⟩ := Store.user?_eq_some.mp hu
    have hid : (c.apply seen).id = id := knows.1
    rw [← hid] at hu
    have hsaved := Store.user?_saveUser written hu (c.apply_sameAccount (hid ▸ knows))
    exact ⟨rfl, hid ▸ hsaved⟩
  | done saved =>
    cases h
    exact ⟨rfl, hu⟩

/-- A step of one caller does not disturb what another has seen. -/
theorem next_sameAccount (knows : caller.Knows u) : (caller.next u).2.SameAccount u := by
  cases caller with
  | ready c => exact ⟨rfl, rfl⟩
  | looked c seen => exact c.apply_sameAccount knows
  | done saved => exact ⟨rfl, rfl⟩

theorem Knows.congr {v : User} (knows : caller.Knows u) (same : v.SameAccount u) :
    caller.Knows v := by
  cases caller with
  | looked c seen => exact ⟨knows.1.trans same.1.symm, knows.2.trans same.2.symm⟩
  | _ => trivial

theorem knows_next (knows : caller.Knows u) : (caller.next u).1.Knows (caller.next u).2 := by
  cases caller with
  | ready c => exact ⟨rfl, rfl⟩
  | _ => trivial

end Caller

/-- The callers take their turns in the order of the list. -/
def interleave (id : UserId) (callers : ι → Caller) : List ι → Call (ι → Caller)
  | [] => return callers
  | i :: order => do
    let caller ← (callers i).turn id
    interleave id (Function.update callers i caller) order

/-- The account after the turns, if none of them fails. -/
def edited (u : User) (callers : ι → Caller) : List ι → User
  | [] => u
  | i :: order =>
    edited ((callers i).next u).2 (Function.update callers i ((callers i).next u).1) order

/-- Turn by turn the store's account is the edited one. -/
theorem user?_interleave {callers callers' : ι → Caller} {order : List ι}
    (h : outcome (interleave id callers order) s = (.ok callers', t)) (hu : s.user? id = some u)
    (knows : ∀ i, (callers i).Knows u) : t.user? id = some (edited u callers order) := by
  induction order generalizing callers s u with
  | nil =>
    cases h
    exact hu
  | cons i order ih =>
    obtain ⟨caller, s', hturn, hrest⟩ := bind_eq_ok.mp h
    obtain ⟨rfl, hu'⟩ := Caller.turn_ok hturn hu (knows i)
    refine ih hrest hu' fun j => ?_
    by_cases hj : j = i
    · subst hj
      simpa using Caller.knows_next (knows j)
    · simpa [hj] using (knows j).congr (Caller.next_sameAccount (knows i))

section Two
variable {change : Bool → User.Change} {order : List Bool}

/-- Two callers with two turns each come one after the other, or both read before one of them
saves. -/
theorem order_cases (h : order.Perm [true, true, false, false]) :
    (∃ i, order = [i, i, !i, !i]) ∨ ∃ i j, order = [i, !i, j, !j] := by
  have hall : ∀ a b c d : Bool, [a, b, c, d].Perm [true, true, false, false] →
      (∃ i, [a, b, c, d] = [i, i, !i, !i]) ∨ ∃ i j, [a, b, c, d] = [i, !i, j, !j] := by
    decide
  obtain ⟨a, b, c, d, rfl⟩ : ∃ a b c d, order = [a, b, c, d] := by
    match order, h.length_eq with
    | [a, b, c, d], _ => exact ⟨a, b, c, d, rfl⟩
  exact hall a b c d h

theorem edited_oneByOne (i : Bool) :
    edited u (fun i => .ready (change i)) [i, i, !i, !i] =
      (change !i).apply ((change i).apply u) := by
  cases i <;> rfl

/-- The last to save has read the account as it was at first. -/
theorem edited_overlapping (i j : Bool) :
    edited u (fun i => .ready (change i)) [i, !i, j, !j] = (change !j).apply u := by
  cases i <;> cases j <;> rfl

theorem merge_both (disjoint : (change true).Disjoint (change false)) (i : Bool) :
    ((change true).merge (change false)).apply u = (change !i).apply ((change i).apply u) := by
  cases i with
  | false => exact User.Change.merge_apply
  | true => rw [disjoint.merge_comm]; exact User.Change.merge_apply

/-- Two changes of different fields are both kept, unless both callers read before one of them saves
and the first to save has something to change. That change is then undone. -/
theorem changes_kept_iff {callers : Bool → Caller} (turns : order.Perm [true, true, false, false])
    (disjoint : (change true).Disjoint (change false)) (hu : s.user? id = some u)
    (h : outcome (interleave id (fun i => .ready (change i)) order) s = (.ok callers, t)) :
    t.user? id = some (((change true).merge (change false)).apply u) ↔
      ∀ i j, order = [i, !i, j, !j] → (change j).apply u = u := by
  rw [user?_interleave h hu fun _ => trivial]
  obtain ⟨i, rfl⟩ | ⟨i, j, rfl⟩ := order_cases turns
  · rw [edited_oneByOne, merge_both disjoint i]
    refine iff_of_true rfl ?_
    intro i' j' heq
    cases i <;> cases i' <;> simp at heq
  · have hlost : (change !j).apply u = (change !j).apply ((change j).apply u) ↔
        (change j).apply u = u := by
      rw [eq_comm]
      refine User.Change.Disjoint.apply_eq_iff ?_
      cases j with
      | false => exact disjoint
      | true => exact disjoint.symm
    rw [edited_overlapping, merge_both disjoint j, Option.some.injEq, hlost]
    constructor
    · intro hj i' j' heq
      cases heq
      exact hj
    · exact fun hall => hall i j rfl

/-! One caller changes the name of the first user, and another one the city. -/

def registered : Store := (follow .fresh (opening.take 1)).2

def nameAndCity : Bool → User.Change
  | true => ⟨some "Anna", none, none, none⟩
  | false => ⟨none, none, some "Lisbon", none⟩

theorem nameAndCity_disjoint : (nameAndCity true).Disjoint (nameAndCity false) :=
  ⟨.inr rfl, .inl rfl, .inl rfl, .inl rfl⟩

theorem registered_user? :
    registered.user? 1 = some ⟨1, "Ana", "ana@example.org", "Porto", "", 0⟩ := by
  decide +kernel

theorem changes_kept_iff_oneByOne :
    ∃ callers t, outcome (interleave 1 (fun i => .ready (nameAndCity i)) [true, true, false, false])
        registered = (.ok callers, t) ∧
      t.user? 1 = some ⟨1, "Anna", "ana@example.org", "Lisbon", "", 0⟩ := by
  have hok : (outcome (interleave 1 (fun i => .ready (nameAndCity i)) [true, true, false, false])
      registered).1.isOk := by decide +kernel
  obtain ⟨callers, t, h⟩ := ok_of_isOk hok
  have hkept := (changes_kept_iff (.refl _) nameAndCity_disjoint registered_user? h).mpr (by simp)
  exact ⟨callers, t, h, hkept.trans (by decide +kernel)⟩

/-- Both read before one of them saves, and the new name is gone. -/
theorem name_lost :
    ∃ callers t, outcome (interleave 1 (fun i => .ready (nameAndCity i)) [false, true, true, false])
        registered = (.ok callers, t) ∧
      t.user? 1 = some ⟨1, "Ana", "ana@example.org", "Lisbon", "", 0⟩ ∧
      t.user? 1 ≠
        some (((nameAndCity true).merge (nameAndCity false)).apply ⟨1, "Ana", "ana@example.org",
          "Porto", "", 0⟩) := by
  have hok : (outcome (interleave 1 (fun i => .ready (nameAndCity i)) [false, true, true, false])
      registered).1.isOk := by decide +kernel
  obtain ⟨callers, t, h⟩ := ok_of_isOk hok
  have hlost : t.user? 1 = some ⟨1, "Ana", "ana@example.org", "Lisbon", "", 0⟩ := by
    rw [user?_interleave h registered_user? fun _ => trivial]
    decide +kernel
  refine ⟨callers, t, h, hlost, ?_⟩
  rw [hlost]
  decide +kernel

end Two

end Market

end BookExchange
