import BookExchange.Text.Blank
import BookExchange.Text.CaseTable

/-! Lower case, and the keys under which texts are searched. -/
namespace BookExchange.Text

def Run.covers (r : Run) (n : Nat) : Bool :=
  r.first ≤ n && n ≤ r.last && (n - r.first) % r.step == 0

def findRun : List Run → Nat → Option Run
  | [], _ => none
  | r :: rest, n => if n < r.first then none else if r.covers n then some r else findRun rest n

/-- The lower case of a character on its own; only the dotted capital I becomes two characters. -/
def lowerChar (c : Char) : List Char :=
  if c = 'İ' then ['i', '\u0307']
  else match findRun lowercaseRuns c.toNat with
    | some r => [Char.ofNat (c.toNat + r.shift).toNat]
    | none => [c]

def isCased (c : Char) : Bool := inRanges casedRanges c.toNat

def isCaseIgnorable (c : Char) : Bool := inRanges caseIgnorableRanges c.toNat

/-- Whether the first character that is not case-ignorable is cased. -/
def meetsCased (cs : List Char) : Bool :=
  ((cs.dropWhile isCaseIgnorable).head?.map isCased).getD false

/-- A capital sigma ends a word when a cased letter stands before it and none after it. -/
def lowerSigma (before after : List Char) : Char :=
  if meetsCased before && !meetsCased after then 'ς' else 'σ'

/-- Lower case of `rest`; `before` holds what precedes it, nearest first, and `done` the answer for
that, last first. -/
def lowerFrom (before done : List Char) : List Char → List Char
  | [] => done.reverse
  | c :: rest =>
    let low := if c = 'Σ' then [lowerSigma before rest] else lowerChar c
    lowerFrom (c :: before) (low.reverse ++ done) rest

def lowercase (cs : List Char) : List Char := lowerFrom [] [] cs

def lower (s : String) : String := String.ofList (lowercase s.toList)

/-- The form in which a text is searched: without white space at its ends, in lower case. -/
def searchKey (s : String) : String := String.ofList (lowercase (trimmed s.toList))

end BookExchange.Text
