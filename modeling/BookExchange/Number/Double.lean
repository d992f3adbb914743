import BookExchange.Data.Numeral

/-! Doubles by exact arithmetic: the nearest one to a quotient, and the shortest decimal that reads
back as it. Only positive numbers of normal size occur. -/
namespace BookExchange.Number

open Data

/-- The nearest integer to a quotient, an even one of two equally near. -/
def roundDiv (num den : Nat) : Nat :=
  let q := num / den
  let r := num % den
  if 2 * r < den then q else if den < 2 * r then q + 1 else q + q % 2

/-- The greatest `e` with `2 ^ e * den ≤ num`, for a quotient of one or more. -/
def binaryExponent (num den : Nat) : Nat := (num / den).log2

/-- The bits of the double nearest to `num / den`, a quotient between `1` and `2 ^ 53`. -/
def ofRatio (num den : Nat) : UInt64 :=
  let e := binaryExponent num den
  let m := roundDiv (num * Nat.pow 2 (52 - e)) den
  UInt64.ofNat ((1023 + e) * Nat.pow 2 52 + (m - Nat.pow 2 52))

/-- Significand and exponent of a normal double, which is `m * 2 ^ q`. -/
def parts (bits : UInt64) : Nat × Int :=
  let fraction := bits.toNat % Nat.pow 2 52
  let exponent := bits.toNat / Nat.pow 2 52 % Nat.pow 2 11
  (fraction + Nat.pow 2 52, (exponent : Int) - 1075)

/-- The nearest decimal with `places` digits after the point. -/
def decimalNear (bits : UInt64) (places : Nat) : Nat :=
  let (m, q) := parts bits
  if 0 ≤ q then m * Nat.pow 2 q.toNat * Nat.pow 10 places
  else roundDiv (m * Nat.pow 10 places) (Nat.pow 2 (-q).toNat)

/-- The fewest places, from `places` on, whose nearest decimal reads back; 17 always do. -/
def fewestPlaces (bits : UInt64) (places : Nat) : Nat → Nat
  | 0 => places
  | k + 1 =>
    if ofRatio (decimalNear bits places) (Nat.pow 10 places) == bits then places
    else fewestPlaces bits (places + 1) k

def shortest (bits : UInt64) : Numeral :=
  let places := fewestPlaces bits 1 16
  ⟨false, decimalNear bits places, -(places : Int), false⟩

end BookExchange.Number
