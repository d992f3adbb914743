import BookExchange.Json.Reader
import BookExchange.Number.Double

/-! JSON values, complete and well-formed, and their compact text. -/
namespace BookExchange

open Data Text

/-- A double is kept as its 64 bits. -/
inductive Json where
  | null
  | bool (b : Bool)
  | number (n : Numeral)
  | double (bits : UInt64)
  | text (s : String)
  | array (items : List Json)
  | object (members : List (String × Json))
deriving Inhabited

namespace Json

def int (n : Int) : Json := .number (.ofInt n)

def nat (n : Nat) : Json := int n

def option (f : α → Json) : Option α → Json
  | none => .null
  | some a => f a

def list (f : α → Json) (xs : List α) : Json := .array (xs.map f)

/-- The member of a table; of several with one name the last counts. -/
def member? (name : String) : Json → Option Json
  | .object members => (members.reverse.find? (·.1 == name)).map (·.2)
  | _ => none

def item? (i : Nat) : Json → Option Json
  | .array items => items[i]?
  | _ => none

def text? : Json → Option String
  | .text s => some s
  | _ => none

mutual

/-- The value of a whole tree that nests at most `depth` deep; no number may be too large for a
double. -/
def ofTree? (depth : Nat) : Tree → Option Json
  | .null => some .null
  | .bool b => some (.bool b)
  | .number n => if n.overflows then none else some (.number n)
  | .text content => content.map .text
  | .list items whole =>
    match depth with
    | 0 => none
    | depth + 1 => if whole then (itemsOfTrees? depth items).map .array else none
  | .table members whole =>
    match depth with
    | 0 => none
    | depth + 1 => if whole then (membersOfTrees? depth members).map .object else none
  | .broken => none

def itemsOfTrees? (depth : Nat) : List Tree → Option (List Json)
  | [] => some []
  | t :: rest => do
    let v ← ofTree? depth t
    let vs ← itemsOfTrees? depth rest
    some (v :: vs)

def membersOfTrees? (depth : Nat) : List (Option String × Tree) → Option (List (String × Json))
  | [] => some []
  | (key, t) :: rest => do
    let k ← key
    let v ← ofTree? depth t
    let vs ← membersOfTrees? depth rest
    some ((k, v) :: vs)

end

/-- The nesting at which a reader gives up. -/
def depthLimit : Nat := 127

def ofBytes? (bytes : List UInt8) : Option Json := readWhole? bytes >>= ofTree? depthLimit

mutual

def toTree : Json → Tree
  | .null => .null
  | .bool b => .bool b
  | .number n => .number n
  | .double bits => .number (Number.shortest bits)
  | .text s => .text (some s)
  | .array items => .list (toTrees items) true
  | .object members => .table (toMembers members) true

def toTrees : List Json → List Tree
  | [] => []
  | v :: vs => v.toTree :: toTrees vs

def toMembers : List (String × Json) → List (Option String × Tree)
  | [] => []
  | (k, v) :: vs => (some k, v.toTree) :: toMembers vs

end

/-- Line separators other than the line feed are escaped too, so that a text stays on one line. -/
def escapeChar (c : Char) : String :=
  match c with
  | '"' => "\\\""
  | '\\' => "\\\\"
  | '\n' => "\\n"
  | '\r' => "\\r"
  | '\t' => "\\t"
  | c =>
    if c.toNat < 0x20 ∨ c.toNat = 0x85 ∨ c.toNat = 0x2028 ∨ c.toNat = 0x2029 then
      "\\u" ++ hexDigits 4 c.toNat
    else c.toString

def quote (s : String) : String := "\"" ++ s.foldl (fun t c => t ++ escapeChar c) "" ++ "\""

/-- Digits with a point before the last `places` of them. -/
def printFraction (significand places : Nat) : String :=
  let digits := Nat.toDigits 10 significand
  let padded := List.replicate (places + 1 - digits.length) '0' ++ digits
  let whole := padded.length - places
  String.ofList (padded.take whole ++ '.' :: padded.drop whole)

/-- The most places that are written out; a number with more is written with a power of ten. -/
def placesLimit : Nat := 20

def printMagnitude (n : Numeral) : String :=
  if n.plain then toString n.significand
  else if -placesLimit ≤ n.exponent ∧ n.exponent < 0 then
    printFraction n.significand (-n.exponent).toNat
  else toString n.significand ++ "e" ++ toString n.exponent

def printNumeral (n : Numeral) : String := (if n.negative then "-" else "") ++ printMagnitude n

mutual

def print : Json → String
  | .null => "null"
  | .bool b => if b then "true" else "false"
  | .number n => printNumeral n
  | .double bits => printNumeral (Number.shortest bits)
  | .text s => quote s
  | .array items => "[" ++ printItems items ++ "]"
  | .object members => "\x7b" ++ printMembers members ++ "\x7d"

def printItems : List Json → String
  | [] => ""
  | [v] => v.print
  | v :: vs => v.print ++ "," ++ printItems vs

def printMembers : List (String × Json) → String
  | [] => ""
  | [(k, v)] => quote k ++ ":" ++ v.print
  | (k, v) :: vs => quote k ++ ":" ++ v.print ++ "," ++ printMembers vs

end

end Json

end BookExchange
