import BookExchange.Data.Tree

/-! Tables as a TOML document builds them up, line by line. -/
namespace BookExchange.Toml

open Data

/-- How a table came to be: by a header of its own, on the way of another header, or on the way of a
dotted key. -/
inductive Origin where
  | header
  | passage
  | dotted
deriving DecidableEq, Repr

/-- What a name stands for: a value that is complete, a table that may still grow, or tables of one
name, the last of which may still grow. -/
inductive Node where
  | value (t : Tree)
  | table (origin : Origin) (members : List (String × Node))
  | tables (items : List (List (String × Node)))

abbrev Members := List (String × Node)

def Members.get? (ms : Members) (name : String) : Option Node := ms.lookup name

/-- Gives a name another node, or a first one. -/
def Members.set (name : String) (node : Node) : Members → Members
  | [] => [(name, node)]
  | (n, old) :: ms => if n = name then (n, node) :: ms else (n, old) :: Members.set name node ms

/-- All but the last, and the last. -/
def splitLast? (xs : List α) : Option (List α × α) :=
  match xs.reverse with
  | [] => none
  | x :: front => some (front.reverse, x)

/-- Sets a value by a dotted key. On its way a table with a header of its own bars it, and the table
that gets the value must not be the passage of a header or one of several; `mayGrow` tells that of
the table where the key starts. -/
def put (t : Tree) (mayGrow : Bool) : List String → Members → Option Members
  | [], _ => none
  | [name], ms =>
    if mayGrow && (ms.get? name).isNone then some (ms.set name (.value t)) else none
  | name :: path, ms => do
    let node ← match ms.get? name with
      | none => Node.table .dotted <$> put t true path []
      | some (.table .dotted sub) => Node.table .dotted <$> put t true path sub
      | some (.table .passage sub) => Node.table .passage <$> put t false path sub
      | some (.tables items) => do
        let (front, last) ← splitLast? items
        pure (.tables (front ++ [← put t false path last]))
      | some (.table .header _) | some (.value _) => none
    return ms.set name node

/-- Changes the table that a header's names lead to; where several have one name, the last. -/
def change (f : Members → Option Members) : List String → Members → Option Members
  | [], ms => f ms
  | name :: path, ms => do
    let node ← match ms.get? name with
      | none => Node.table .passage <$> change f path []
      | some (.table origin sub) => Node.table origin <$> change f path sub
      | some (.tables items) => do
        let (front, last) ← splitLast? items
        pure (.tables (front ++ [← change f path last]))
      | some (.value _) => none
    return ms.set name node

/-- Begins a table; a name may have one header only. -/
def beginTable (name : String) (ms : Members) : Option Members :=
  match ms.get? name with
  | none => some (ms.set name (.table .header []))
  | some (.table .passage sub) => some (ms.set name (.table .header sub))
  | some _ => none

/-- Begins the next of several tables with one name. -/
def beginItem (name : String) (ms : Members) : Option Members :=
  match ms.get? name with
  | none => some (ms.set name (.tables [[]]))
  | some (.tables items) => some (ms.set name (.tables (items ++ [[]])))
  | some _ => none

mutual

def Node.tree : Node → Tree
  | .value t => t
  | .table _ ms => .table (trees ms) true
  | .tables items => .list (tableTrees items) true

def trees : List (String × Node) → List (Option String × Tree)
  | [] => []
  | (name, node) :: ms => (some name, node.tree) :: trees ms

def tableTrees : List (List (String × Node)) → List Tree
  | [] => []
  | ms :: items => .table (trees ms) true :: tableTrees items

end

end BookExchange.Toml
