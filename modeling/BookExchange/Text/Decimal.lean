/-! Decimal integers of a limited range, read strictly: an optional sign, then ASCII digits. -/
namespace BookExchange.Text

/-- The integers a field can hold. -/
structure Width where
  least : Int
  greatest : Int

namespace Width

def natural (bits : Nat) : Width := ⟨0, (Nat.pow 2 bits : Int) - 1⟩

def signed (bits : Nat) : Width :=
  ⟨-(Nat.pow 2 (bits - 1) : Int), (Nat.pow 2 (bits - 1) : Int) - 1⟩

def holds (w : Width) (n : Int) : Bool := w.least ≤ n && n ≤ w.greatest

end Width

inductive DecimalFault where
  | empty
  | invalidDigit
  | tooLarge
  | tooSmall
deriving DecidableEq, Repr

def DecimalFault.message : DecimalFault → String
  | .empty => "cannot parse integer from empty string"
  | .invalidDigit => "invalid digit found in string"
  | .tooLarge => "number too large to fit in target type"
  | .tooSmall => "number too small to fit in target type"

/-- Reads on after `n`; the first digit that leaves the range or is no digit decides the fault. -/
def readDigits (w : Width) (negative : Bool) (n : Int) : List Char → Except DecimalFault Int
  | [] => .ok n
  | c :: cs =>
    if !c.isDigit then .error .invalidDigit
    else
      let d : Int := c.toNat - '0'.toNat
      let m := if negative then 10 * n - d else 10 * n + d
      if m > w.greatest then .error .tooLarge
      else if m < w.least then .error .tooSmall
      else readDigits w negative m cs

/-- A minus sign counts as a sign only where negative numbers exist. -/
def readDecimal (w : Width) (s : String) : Except DecimalFault Int :=
  match s.toList with
  | [] => .error .empty
  | ['+'] | ['-'] => .error .invalidDigit
  | '+' :: cs => readDigits w false 0 cs
  | '-' :: cs => if w.least < 0 then readDigits w true 0 cs else .error .invalidDigit
  | cs => readDigits w false 0 cs

end BookExchange.Text
