/-! Tables whose rows are numbered from one in the order of their insertion. A number is never used
again: the slot of an erased row stays empty. -/
namespace BookExchange

structure Table (α : Type) where
  slots : List (Option α)
deriving DecidableEq, Repr, Inhabited

namespace Table

variable {α : Type}

def empty : Table α := ⟨[]⟩

def nextId (t : Table α) : Int := t.slots.length + 1

def get? (t : Table α) (id : Int) : Option α :=
  if id ≤ 0 then none else (t.slots[(id - 1).toNat]?).join

def insert (t : Table α) (row : α) : Table α := ⟨t.slots ++ [some row]⟩

/-- Changes one row; an absent row stays absent. -/
def modify (t : Table α) (id : Int) (f : α → α) : Table α :=
  if id ≤ 0 then t else ⟨t.slots.modify (id - 1).toNat (Option.map f)⟩

/-- Changes every row. -/
def map (t : Table α) (f : α → α) : Table α := ⟨t.slots.map (Option.map f)⟩

def erase (t : Table α) (id : Int) : Table α :=
  if id ≤ 0 then t else ⟨t.slots.set (id - 1).toNat none⟩

def entriesFrom (id : Int) : List (Option α) → List (Int × α)
  | [] => []
  | none :: rest => entriesFrom (id + 1) rest
  | some row :: rest => (id, row) :: entriesFrom (id + 1) rest

/-- The rows with their numbers, in ascending order. -/
def entries (t : Table α) : List (Int × α) := entriesFrom 1 t.slots

end Table

end BookExchange
