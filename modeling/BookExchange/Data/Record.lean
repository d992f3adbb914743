import BookExchange.Data.Tree
import BookExchange.Text.Decimal

/-! Trees read as values of a type. Values are read in the order of the document, so the first
fault met is the one reported. -/
namespace BookExchange.Data

open Text

/-- A tree is malformed where its document is, and unfit where it has another shape than asked. -/
inductive Fault where
  | malformed
  | unfit
deriving DecidableEq, Repr

abbrev Reader (α : Type) := Tree → Except Fault α

variable {α β : Type}

namespace Tree

/-- The fault of a value of the wrong kind; one that cannot be read at all is malformed. -/
def fault : Tree → Fault
  | .broken | .text none => .malformed
  | .number n => if n.overflows then .malformed else .unfit
  | _ => .unfit

def readText : Reader String
  | .text (some s) => .ok s
  | t => .error t.fault

def readInt (w : Width) : Reader Int
  | .number n => match n.toInt? with
    | some i => if w.holds i then .ok i else .error .unfit
    | none => .error (number n).fault
  | t => .error t.fault

def readNat (w : Width) : Reader Nat := fun t => Int.toNat <$> t.readInt w

def readOption (read : Reader α) : Reader (Option α)
  | .null => .ok none
  | t => some <$> read t

def readList (read : Reader α) : Reader (List α)
  | .list items whole => do
    let values ← items.mapM read
    if whole then return values else throw .malformed
  | t => .error t.fault

end Tree

/-- A named part of a record. Of the values that may stand in for it, `missing` is used when a table
lacks it and `short` when a list ends before it. -/
structure Field (α : Type) where
  name : String
  read : Reader α
  missing : Option α
  short : Option α

namespace Field

def required (name : String) (read : Reader α) : Field α := ⟨name, read, none, none⟩

def optional (name : String) (read : Reader α) : Field (Option α) :=
  ⟨name, Tree.readOption read, some none, none⟩

def defaulted (name : String) (read : Reader α) (value : α) : Field α :=
  ⟨name, read, some value, some value⟩

/-- The value of the field, if it has none of its own. -/
def fill (f : Field α) (fromList : Bool) : Option α → Except Fault α
  | some a => .ok a
  | none => match if fromList then f.short else f.missing with
    | some a => .ok a
    | none => .error .unfit

end Field

/-- A reader of records: tables with named members, or lists of the fields in their order. The
fields read so far are kept in slots. -/
structure Record (α : Type) where
  Slots : Type
  empty : Slots
  names : List String
  isSet : Nat → Slots → Bool
  set : Nat → Tree → Slots → Except Fault Slots
  finish : Bool → Slots → Except Fault α

namespace Record

def unit : Record Unit where
  Slots := Unit
  empty := ()
  names := []
  isSet _ _ := false
  set _ _ _ := .ok ()
  finish _ _ := .ok ()

/-- One field before the others. -/
def cons (f : Field α) (r : Record β) : Record (α × β) where
  Slots := Option α × r.Slots
  empty := (none, r.empty)
  names := f.name :: r.names
  isSet
    | 0, s => s.1.isSome
    | i + 1, s => r.isSet i s.2
  set
    | 0, t, s => do return (some (← f.read t), s.2)
    | i + 1, t, s => do return (s.1, ← r.set i t s.2)
  finish fromList s := do
    let a ← f.fill fromList s.1
    let b ← r.finish fromList s.2
    return (a, b)

def map (f : α → β) (r : Record α) : Record β :=
  { r with finish := fun fromList s => f <$> r.finish fromList s }

/-- Reads members in turn; unknown ones are passed over, known ones may come once. -/
def readMembers (r : Record α) (s : r.Slots) :
    List (Option String × Tree) → Except Fault r.Slots
  | [] => .ok s
  | (none, _) :: _ => .error .malformed
  | (some name, t) :: rest =>
    match r.names.idxOf? name with
    | none => r.readMembers s rest
    | some i => do
      if r.isSet i s then throw .unfit
      let s ← r.set i t s
      r.readMembers s rest

/-- Reads the fields from `i` on from as many items; also gives the items behind them. -/
def readItems (r : Record α) (whole : Bool) (i : Nat) (s : r.Slots) :
    Nat → List Tree → Except Fault (r.Slots × List Tree)
  | 0, items => .ok (s, items)
  | _ + 1, [] => if whole then .ok (s, []) else .error .malformed
  | k + 1, t :: rest => do
    let s ← r.set i t s
    r.readItems whole (i + 1) s k rest

def read (r : Record α) : Reader α
  | .table members whole => do
    let s ← r.readMembers r.empty members
    if !whole then throw .malformed
    r.finish false s
  | .list items whole => do
    let (s, rest) ← r.readItems whole 0 r.empty r.names.length items
    let value ← r.finish true s
    if !whole || !rest.isEmpty then throw .malformed
    return value
  | t => .error t.fault

end Record

end BookExchange.Data
