import BookExchange.Data.Tree
import BookExchange.Text.Decimal
import BookExchange.Toml.Quoted

/-! Truth values, numbers and times of TOML, each a run of letters, digits and a few signs. -/
namespace BookExchange.Toml

open Data

/-- The digits of a number, in groups between single underscores. -/
def digits? (isDigit : Char → Bool) (cs : List Char) : Option (List Char) :=
  let groups := cs.splitOn '_'
  if groups.all fun g => !g.isEmpty && g.all isDigit then some groups.flatten else none

/-- The number that digits stand for. -/
def ofDigits (base : Nat) (ds : List Char) : Nat :=
  ds.foldl (fun n c => n * base + (Text.hexValue? c).getD 0) 0

/-- A sign, if there is one, and what follows it. -/
def sign : List Char → Bool × List Char
  | '-' :: rest => (true, rest)
  | '+' :: rest => (false, rest)
  | cs => (false, cs)

/-- A decimal number does not begin with a zero, unless it is zero. -/
def decimal? (cs : List Char) : Option (List Char) :=
  match digits? Char.isDigit cs with
  | some ('0' :: _ :: _) => none
  | r => r

def isDigitOf (base : Nat) (c : Char) : Bool := (Text.hexValue? c).any (· < base)

/-- A number in another base than ten. -/
def inBase? (base : Nat) (ds : List Char) : Option Int := do
  return ofDigits base (← digits? (isDigitOf base) ds)

/-- Integers are those of 64 bits. -/
def integer? (cs : List Char) : Option Int := do
  let n ← match cs with
    | '0' :: 'x' :: ds => inBase? 16 ds
    | '0' :: 'o' :: ds => inBase? 8 ds
    | '0' :: 'b' :: ds => inBase? 2 ds
    | _ => do
      let (negative, ds) := sign cs
      let n := ofDigits 10 (← decimal? ds)
      pure (if negative then -(n : Int) else n)
  if (Text.Width.signed 64).holds n then some n else none

/-- What stands before a separator, and what behind it if there is one. -/
def splitAt (isSeparator : Char → Bool) (cs : List Char) : List Char × Option (List Char) :=
  (cs.takeWhile (!isSeparator ·),
    match cs.dropWhile (!isSeparator ·) with
    | [] => none
    | _ :: rest => some rest)

/-- A number with a fraction or a power of ten; a positive one must not overflow a double. -/
def float? (cs : List Char) : Option Numeral := do
  let (negative, cs) := sign cs
  let (mantissa, power) := splitAt (fun c => c = 'e' || c = 'E') cs
  let (whole, fraction) := splitAt (· = '.') mantissa
  if fraction.isNone && power.isNone then none
  let whole ← decimal? whole
  let fraction ← match fraction with
    | some ds => digits? Char.isDigit ds
    | none => some []
  let exponent ← match power with
    | some ds => do
      let (negative, ds) := sign ds
      let n := ofDigits 10 (← digits? Char.isDigit ds)
      pure (if negative then -(n : Int) else n)
    | none => some 0
  let n : Numeral := ⟨negative, ofDigits 10 (whole ++ fraction), exponent - fraction.length, false⟩
  if n.overflows && !negative then none else some n

/-- An infinity, or what is no number. -/
def isSpecial (cs : List Char) : Bool :=
  (sign cs).2 == "inf".toList || (sign cs).2 == "nan".toList

/-- A number of two digits. -/
def pair? (a b : Char) : Option Nat :=
  if a.isDigit && b.isDigit then some (ofDigits 10 [a, b]) else none

def isBelow (limit : Nat) (a b : Char) : Bool := (pair? a b).any (· < limit)

/-- The days of a month, in the Gregorian calendar. -/
def daysIn (year month : Nat) : Nat :=
  if month = 2 then
    if year % 4 = 0 ∧ (year % 100 ≠ 0 ∨ year % 400 = 0) then 29 else 28
  else if month ∈ [4, 6, 9, 11] then 30 else 31

def isDate : List Char → Bool
  | [a, b, c, d, '-', m, n, '-', x, y] =>
    match pair? a b, pair? c d, pair? m n, pair? x y with
    | some century, some year, some month, some day =>
      1 ≤ month && month ≤ 12 && 1 ≤ day && day ≤ daysIn (century * 100 + year) month
    | _, _, _, _ => false
  | _ => false

/-- What follows a time of the day; a minute may have a leap second. -/
def dropTime? : List Char → Option (List Char)
  | a :: b :: ':' :: c :: d :: ':' :: e :: f :: rest =>
    if isBelow 24 a b && isBelow 60 c d && isBelow 61 e f then
      match rest with
      | '.' :: g :: rest => if g.isDigit then some (rest.dropWhile Char.isDigit) else none
      | _ => some rest
    else none
  | _ => none

def isOffset : List Char → Bool
  | [] | ['Z'] | ['z'] => true
  | [s, a, b, ':', c, d] => (s = '+' || s = '-') && isBelow 24 a b && isBelow 60 c d
  | _ => false

/-- A date, a time of the day, or both, then perhaps with an offset. -/
def isDateTime (cs : List Char) : Bool :=
  isDate cs || dropTime? cs == some [] ||
  (isDate (cs.take 10) && match cs.drop 10 with
    | c :: time => (c = 'T' || c = 't' || c = ' ') && (dropTime? time).any isOffset
    | [] => false)

def isScalarChar (c : Char) : Bool := c.isAlphanum || "_+-.:".toList.contains c

/-- The run of characters of a scalar, and what follows it. A time may follow its date behind a
space. -/
def scalarRun (cs : List Char) : List Char × List Char :=
  let run := cs.takeWhile isScalarChar
  match cs.dropWhile isScalarChar with
  | ' ' :: c :: rest =>
    if isDate run && c.isDigit then
      (run ++ ' ' :: (c :: rest).takeWhile isScalarChar, (c :: rest).dropWhile isScalarChar)
    else (run, ' ' :: c :: rest)
  | rest => (run, rest)

/-- The value of a run. A point in time is a table with one member, which no record asks for; an
infinity is a number that is no integer, like any float. -/
def scalar? (cs : List Char) : Option Tree :=
  if cs == "true".toList then some (.bool true)
  else if cs == "false".toList then some (.bool false)
  else if isSpecial cs then some (.number ⟨false, 0, 0, false⟩)
  else if isDateTime cs then
    some (.table [(some "date-time", .text (some (String.ofList cs)))] true)
  else match integer? cs with
    | some n => some (.number (.ofInt n))
    | none => (float? cs).map .number

end BookExchange.Toml
