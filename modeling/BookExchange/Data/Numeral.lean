/-! Numbers as they are written: digits, a power of ten, and whether it is a plain integer. -/
namespace BookExchange.Data

/-- Stands for `significand * 10 ^ exponent`; `plain` when written without point and exponent. -/
structure Numeral where
  negative : Bool
  significand : Nat
  exponent : Int
  plain : Bool
deriving DecidableEq, Repr, Inhabited

namespace Numeral

def ofInt (n : Int) : Numeral := ⟨n < 0, n.natAbs, 0, true⟩

/-- A number with point or exponent is no integer, whatever its value; nor is negative zero. -/
def toInt? (n : Numeral) : Option Int :=
  if !n.plain then none
  else if !n.negative then some n.significand
  else if n.significand = 0 then none
  else some (-n.significand)

/-- Doubles end half a unit past the greatest one, `(2 ^ 53 - 1) * 2 ^ 971`. -/
def doubleLimit : Nat := (Nat.pow 2 54 - 1) * Nat.pow 2 970

/-- Whether the magnitude is too large for a double. -/
def overflows (n : Numeral) : Bool :=
  if n.significand = 0 then false
  else
    let digits : Int := (Nat.toDigits 10 n.significand).length
    if digits + n.exponent > 310 then true
    else if digits + n.exponent < 300 then false
    else if 0 ≤ n.exponent then n.significand * Nat.pow 10 n.exponent.toNat ≥ doubleLimit
    else n.significand ≥ doubleLimit * Nat.pow 10 (-n.exponent).toNat

end Numeral

end BookExchange.Data
