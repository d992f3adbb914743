import BookExchange.Number.Double
import Mathlib.Algebra.Order.Field.Basic
import Mathlib.Algebra.Order.Field.Power
import Mathlib.Algebra.Order.Field.Rat
import Mathlib.Tactic.FieldSimp
import Mathlib.Tactic.Linarith
import Mathlib.Tactic.NormNum
import Mathlib.Tactic.Positivity
import Mathlib.Tactic.Ring

/-! The double that stands for a quotient is the nearest one. Between two powers of two the doubles
are the multiples of one unit, and rounding to a whole number of units is rounding to the nearest. -/
namespace BookExchange.Number
variable {num den : Nat}

/-- The number that the bits of a normal double stand for. -/
def value (bits : UInt64) : ℚ := (parts bits).1 * 2 ^ (parts bits).2

/-- No double is nearer to the number. -/
def IsNearest (bits : UInt64) (x : ℚ) : Prop := ∀ other, |value bits - x| ≤ |value other - x|

/-! Nothing is rounded past a double. -/
namespace IsNearest
variable {bits other : UInt64} {x : ℚ}

theorem value_le (h : IsNearest bits x) (below : value other ≤ x) : value other ≤ value bits := by
  have hnear := h other
  rw [abs_of_nonpos (sub_nonpos.mpr below)] at hnear
  have hdistance := neg_le_of_abs_le hnear
  linarith

theorem le_value (h : IsNearest bits x) (above : x ≤ value other) : value bits ≤ value other := by
  have hnear := h other
  rw [abs_of_nonneg (sub_nonneg.mpr above)] at hnear
  have hdistance := le_of_abs_le hnear
  linarith

end IsNearest

/-! Rounding to whole numbers. -/

theorem abs_roundDiv_sub_le (num : Nat) (positive : 0 < den) :
    |(roundDiv num den : ℚ) - num / den| ≤ 1 / 2 := by
  have hden : (0 : ℚ) < den := by exact_mod_cast positive
  have hdivision : (num : ℚ) / den = (num / den : Nat) + ((num % den : Nat) : ℚ) / den := by
    have h : (den : ℚ) * (num / den : Nat) + (num % den : Nat) = num := by
      exact_mod_cast Nat.div_add_mod num den
    rw [← h]
    field_simp
  have hrest : ((num % den : Nat) : ℚ) / den < 1 :=
    (div_lt_one hden).mpr (by exact_mod_cast Nat.mod_lt num positive)
  have hsign : 0 ≤ ((num % den : Nat) : ℚ) / den := by positivity
  have hhalf : ((num % den : Nat) : ℚ) / den = (2 * (num % den) : Nat) / den / 2 := by
    push_cast
    ring
  rw [hdivision, roundDiv]
  split
  · next below =>
    have h : ((2 * (num % den) : Nat) : ℚ) / den < 1 :=
      (div_lt_one hden).mpr (by exact_mod_cast below)
    rw [abs_le]
    constructor <;> linarith
  · next notBelow =>
    split
    · next above =>
      have h : 1 < ((2 * (num % den) : Nat) : ℚ) / den :=
        (one_lt_div hden).mpr (by exact_mod_cast above)
      rw [abs_le]
      push_cast
      constructor <;> linarith
    · next notAbove =>
      have h : ((2 * (num % den) : Nat) : ℚ) / den = 1 := by
        rw [Nat.le_antisymm (Nat.not_lt.mp notAbove) (Nat.not_lt.mp notBelow)]
        exact div_self hden.ne'
      have hparity : ((num / den % 2 : Nat) : ℚ) = 0 ∨ ((num / den % 2 : Nat) : ℚ) = 1 := by
        exact_mod_cast Nat.mod_two_eq_zero_or_one (num / den)
      rw [abs_le]
      push_cast at hparity ⊢
      obtain hparity | hparity := hparity
      · rw [hparity]
        constructor <;> linarith
      · rw [hparity]
        constructor <;> linarith

/-- No whole number is nearer to the quotient. -/
theorem abs_roundDiv_sub_le_of_int (num : Nat) (positive : 0 < den) (k : ℤ) :
    |(roundDiv num den : ℚ) - num / den| ≤ |(k : ℚ) - num / den| := by
  by_cases h : k = roundDiv num den
  · rw [h, Int.cast_natCast]
  · have hone : (1 : ℚ) ≤ |(k : ℚ) - roundDiv num den| := by
      exact_mod_cast Int.one_le_abs (sub_ne_zero.mpr h)
    have hhalf := abs_roundDiv_sub_le num positive
    have htriangle := abs_sub_le (k : ℚ) (num / den) (roundDiv num den)
    rw [abs_sub_comm ((num : ℚ) / den)] at htriangle
    linarith

/-! The parts of a double. -/

theorem parts_fst_bounds (bits : UInt64) :
    2 ^ 52 ≤ (parts bits).1 ∧ (parts bits).1 < 2 ^ 53 := by
  simp only [parts, Nat.pow_eq]
  omega

theorem parts_ofNat {e m : Nat} (he : e ≤ 53) (least : 2 ^ 52 ≤ m) (greatest : m < 2 ^ 53) :
    parts (UInt64.ofNat ((1023 + e) * 2 ^ 52 + (m - 2 ^ 52))) = (m, (e : ℤ) - 52) := by
  have hbits : (UInt64.ofNat ((1023 + e) * 2 ^ 52 + (m - 2 ^ 52))).toNat =
      (1023 + e) * 2 ^ 52 + (m - 2 ^ 52) := by
    rw [UInt64.toNat_ofNat']
    exact Nat.mod_eq_of_lt (by omega)
  simp only [parts, hbits, Nat.pow_eq, Prod.mk.injEq]
  omega

/-- A significand that rounding has carried over stands for the same number one power of two up. -/
theorem value_ofNat {e m : Nat} (he : e ≤ 52) (least : 2 ^ 52 ≤ m) (greatest : m ≤ 2 ^ 53) :
    value (UInt64.ofNat ((1023 + e) * 2 ^ 52 + (m - 2 ^ 52))) = m * 2 ^ ((e : ℤ) - 52) := by
  obtain hm | rfl := greatest.lt_or_eq
  · rw [value, parts_ofNat (by omega) least hm]
  · have hbits : UInt64.ofNat ((1023 + e) * 2 ^ 52 + (2 ^ 53 - 2 ^ 52)) =
        UInt64.ofNat ((1023 + (e + 1)) * 2 ^ 52 + (2 ^ 52 - 2 ^ 52)) :=
      congrArg UInt64.ofNat (by omega)
    have hexponent : ((e + 1 : Nat) : ℤ) - 52 = (e : ℤ) - 52 + 1 := by omega
    rw [value, hbits, parts_ofNat (by omega) le_rfl (by omega), hexponent,
      zpow_add_one₀ two_ne_zero]
    push_cast
    ring

/-! The quotient's own power of two. -/

theorem binaryExponent_bounds (positive : 0 < den) (one : den ≤ num) :
    2 ^ binaryExponent num den * den ≤ num ∧ num < 2 ^ (binaryExponent num den + 1) * den := by
  have hquotient : num / den ≠ 0 := (Nat.div_pos one positive).ne'
  constructor
  · exact (Nat.le_div_iff_mul_le positive).mp (Nat.log2_self_le hquotient)
  · exact (Nat.div_lt_iff_lt_mul positive).mp Nat.lt_log2_self

theorem binaryExponent_le (positive : 0 < den) (one : den ≤ num) (small : num < 2 ^ 53 * den) :
    binaryExponent num den ≤ 52 := by
  have hpow : 2 ^ binaryExponent num den < 2 ^ 53 :=
    Nat.lt_of_mul_lt_mul_right ((binaryExponent_bounds positive one).1.trans_lt small)
  exact Nat.le_of_lt_succ ((Nat.pow_lt_pow_iff_right (by omega)).mp hpow)

/-- The numerator of the quotient, counted in units of the last place of its double. -/
def scaled (num den : Nat) : Nat := num * 2 ^ (52 - binaryExponent num den)

theorem scaled_bounds (positive : 0 < den) (one : den ≤ num) (small : num < 2 ^ 53 * den) :
    (2 : ℚ) ^ 52 ≤ scaled num den / den ∧ (scaled num den : ℚ) / den < 2 ^ 53 := by
  have he := binaryExponent_le positive one small
  obtain ⟨hleast, hgreatest⟩ := binaryExponent_bounds positive one
  have hden : (0 : ℚ) < den := by exact_mod_cast positive
  have hpow : 2 ^ binaryExponent num den * 2 ^ (52 - binaryExponent num den) = 2 ^ 52 := by
    rw [← Nat.pow_add, Nat.add_sub_of_le he]
  rw [le_div_iff₀ hden, div_lt_iff₀ hden, scaled]
  constructor
  · have h := Nat.mul_le_mul_right (2 ^ (52 - binaryExponent num den)) hleast
    rw [Nat.mul_right_comm, hpow] at h
    exact_mod_cast h
  · have h := Nat.mul_lt_mul_of_pos_right hgreatest (Nat.two_pow_pos (52 - binaryExponent num den))
    rw [Nat.pow_succ, Nat.mul_right_comm, Nat.mul_right_comm _ 2, hpow] at h
    exact_mod_cast h

theorem roundDiv_scaled_bounds (positive : 0 < den) (one : den ≤ num) (small : num < 2 ^ 53 * den) :
    2 ^ 52 ≤ roundDiv (scaled num den) den ∧ roundDiv (scaled num den) den ≤ 2 ^ 53 := by
  have hhalf := abs_le.mp (abs_roundDiv_sub_le (scaled num den) positive)
  obtain ⟨hleast, hgreatest⟩ := scaled_bounds positive one small
  constructor
  · have h : (2 : ℚ) ^ 52 < roundDiv (scaled num den) den + 1 := by linarith
    exact Nat.lt_succ_iff.mp (by exact_mod_cast h)
  · have h : (roundDiv (scaled num den) den : ℚ) < 2 ^ 53 + 1 := by linarith
    exact Nat.lt_succ_iff.mp (by exact_mod_cast h)

theorem value_ofRatio (positive : 0 < den) (one : den ≤ num) (small : num < 2 ^ 53 * den) :
    value (ofRatio num den) =
      roundDiv (scaled num den) den * 2 ^ ((binaryExponent num den : ℤ) - 52) := by
  obtain ⟨hleast, hgreatest⟩ := roundDiv_scaled_bounds positive one small
  exact value_ofNat (binaryExponent_le positive one small) hleast hgreatest

/-- Above the quotient's power of two every double is a whole number of units; below it, the power
itself is nearer. -/
theorem abs_roundDiv_sub_le_of_zpow {N m : Nat} (positive : 0 < den)
    (units : (2 : ℚ) ^ 52 ≤ (N : ℚ) / den) (hm : m < 2 ^ 53) (y : ℤ) :
    |(roundDiv N den : ℚ) - N / den| ≤ |(m : ℚ) * 2 ^ y - N / den| := by
  cases y with
  | ofNat n =>
    have h := abs_roundDiv_sub_le_of_int N positive (m * 2 ^ n)
    push_cast at h
    simpa using h
  | negSucc n =>
    have h := abs_roundDiv_sub_le_of_int N positive (2 ^ 52)
    rw [Int.cast_pow, Int.cast_ofNat] at h
    have hbelow : (m : ℚ) * 2 ^ Int.negSucc n ≤ 2 ^ 52 := by
      have hpow : (2 : ℚ) ^ Int.negSucc n ≤ 2 ^ (-1 : ℤ) :=
        zpow_le_zpow_right₀ one_le_two (by omega)
      have hm : (m : ℚ) ≤ 2 ^ 53 := by exact_mod_cast hm.le
      calc (m : ℚ) * 2 ^ Int.negSucc n ≤ 2 ^ 53 * 2 ^ (-1 : ℤ) := by gcongr
        _ = 2 ^ 52 := by norm_num
    rw [abs_of_nonpos (by linarith : (2 : ℚ) ^ 52 - N / den ≤ 0)] at h
    rw [abs_of_nonpos (by linarith : (m : ℚ) * 2 ^ Int.negSucc n - N / den ≤ 0)]
    linarith

/-- The double of a quotient is nearest to it. -/
theorem isNearest_ofRatio (positive : 0 < den) (one : den ≤ num) (small : num < 2 ^ 53 * den) :
    IsNearest (ofRatio num den) (num / den) := by
  intro other
  have hquotient : (num : ℚ) / den =
      scaled num den / den * 2 ^ ((binaryExponent num den : ℤ) - 52) := by
    have hpow : (2 : ℚ) ^ (52 - binaryExponent num den) * 2 ^ ((binaryExponent num den : ℤ) - 52) =
        1 := by
      rw [← zpow_natCast, ← zpow_add₀ two_ne_zero,
        Nat.cast_sub (binaryExponent_le positive one small)]
      norm_num
    push_cast [scaled]
    rw [div_mul_eq_mul_div, mul_assoc, hpow, mul_one]
  have hother : value other =
      (parts other).1 * 2 ^ ((parts other).2 - ((binaryExponent num den : ℤ) - 52)) *
        2 ^ ((binaryExponent num den : ℤ) - 52) := by
    rw [value, mul_assoc, ← zpow_add₀ two_ne_zero, sub_add_cancel]
  rw [value_ofRatio positive one small, hother, hquotient, ← sub_mul, ← sub_mul, abs_mul, abs_mul]
  exact mul_le_mul_of_nonneg_right (abs_roundDiv_sub_le_of_zpow positive
    (scaled_bounds positive one small).1 (parts_fst_bounds other).2 _) (abs_nonneg _)

end BookExchange.Number
