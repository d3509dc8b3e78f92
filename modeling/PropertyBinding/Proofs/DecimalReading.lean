import Mathlib
import PropertyBinding.Proofs.NumeralText
import PropertyBinding.Proofs.Rounding
import PropertyBinding.Proofs.WordArithmetic

namespace PropertyBinding
namespace Number

open Float.Model UnpackedFloat

/-!
# Reading decimals

What a numeral denotes is rounded once.  A short numeral takes one product or quotient of
two doubles that are exact, its digits and a power of ten from the table; a long one takes a
product or quotient of integers.  Either way a decimal in the rounding interval of a double is
read as that double.
-/

/-! ## Powers of ten -/

/-- The parts of a power of ten whose significand is exact. -/
def powerParts (power : Nat) : UnpackedFloat :=
  .finite .positive (fullSignificand (5 ^ power)) ((5 ^ power : Nat).log2 - 52 + power)
    (fullSignificand_pos (by positivity))

/-- The significand of a whole number and its power of two make up the number. -/
theorem value_fullSignificand {size : Nat} (positive : 0 < size) (small : size < 2 ^ 53) :
    (fullSignificand size : ℚ) * 2 ^ (size.log2 - 52 : Int) = size := by
  have digits := log2_lt_of_lt positive small
  have places : ((52 - size.log2 : Nat) : Int) = 52 - size.log2 := by omega
  rw [fullSignificand, Nat.shiftLeft_eq]
  push_cast
  rw [mul_assoc, ← zpow_natCast, places, ← zpow_add₀ (by norm_num), sub_add_sub_cancel, sub_self,
    zpow_zero, mul_one]

theorem two_pow_le_fullSignificand {size : Nat} (positive : 0 < size) (small : size < 2 ^ 53) :
    2 ^ 52 ≤ fullSignificand size :=
  ((Nat.log2_eq_iff (Nat.ne_of_gt (fullSignificand_pos positive))).mp
    (log2_fullSignificand positive small)).1

/-- A power of ten with an exact significand is the power of five and the power of two. -/
theorem value_powerParts {power : Nat} (small : power < 23) :
    (fullSignificand (5 ^ power) : ℚ) * 2 ^ ((5 ^ power : Nat).log2 - 52 + power : Int) =
      10 ^ power := by
  have fives : 5 ^ power < 2 ^ 53 :=
    (Nat.pow_le_pow_right (by decide) (Nat.le_of_lt_succ small)).trans_lt
      (by decide : 5 ^ 22 < 2 ^ 53)
  rw [zpow_add₀ (by norm_num), ← mul_assoc, value_fullSignificand (by positivity) fives,
    zpow_natCast]
  push_cast
  rw [← mul_pow]
  norm_num

/-- The table of powers of ten is exact. -/
theorem parts_exactlyRepresentablePowersOfTen (power : Nat) (small : power < 23) :
    parts (getElem Float.exactlyRepresentablePowersOfTen power small) = powerParts power := by
  have table : ∀ power : Fin 23,
      getElem Float.exactlyRepresentablePowersOfTen power.val power.isLt =
        ofParts (powerParts power) := by
    decide +kernel
  have canonical : ∀ power : Fin 23, (fullSignificand (5 ^ power.val)).log2 = 52 := by
    decide +kernel
  have digits : ∀ power : Fin 23, (5 ^ power.val : Nat).log2 < 52 := by
    decide +kernel
  have full := canonical ⟨power, small⟩
  have few := digits ⟨power, small⟩
  rw [table ⟨power, small⟩, parts_ofParts]
  exact canonical_full full (by omega) (by omega)

/-! ## From a decimal to a double -/

section Reading

variable {digits : Nat} {power : Int} {significand : Nat} {exponent : Int}
  {positive : 0 < significand} (nonzero : 0 < digits)
  (canonical : Canonical .binary64 (.finite .positive significand exponent positive))
  (around : Around significand exponent (decimalValue digits power))

include canonical around in
/-- A decimal that is around a double is neither too large nor too small for the format. -/
theorem decimalValue_bounds :
    decimalValue digits power < 2 ^ (1024 : Int) ∧
      2 ^ (-1075 : Int) ≤ decimalValue digits power := by
  obtain ⟨small, least, most, -⟩ := canonical.bounds
  constructor
  · refine (around.high small).trans_le (zpow_le_zpow_right₀ (by norm_num) (by omega))
  · have near := (abs_le.mp around.1.1).1
    have some' : (1 : ℚ) ≤ significand := by exact_mod_cast positive
    have half : (1 / 2 : ℚ) ≤ decimalValue digits power / 2 ^ exponent := by linarith
    rw [le_div_iff₀ (by positivity)] at half
    calc (2 : ℚ) ^ (-1075 : Int) = 1 / 2 * 2 ^ (-1074 : Int) := by
          rw [one_div, ← zpow_neg_one, ← zpow_add₀ (by norm_num)]
          rfl
      _ ≤ 1 / 2 * 2 ^ exponent := by
          gcongr
          norm_num
      _ ≤ decimalValue digits power := half

include nonzero in
/-- Digits with a power of ten that is not negative are at least that power of two. -/
theorem two_zpow_le_decimalValue (up : 0 ≤ power) : 2 ^ power ≤ decimalValue digits power := by
  have some' : (1 : ℚ) ≤ digits := by exact_mod_cast nonzero
  have tens : (2 : ℚ) ^ power ≤ 10 ^ power := zpow_le_zpow_left₀ up (by norm_num) (by norm_num)
  calc (2 : ℚ) ^ power ≤ 1 * 10 ^ power := by rwa [one_mul]
    _ ≤ digits * 10 ^ power := by gcongr

/-- Digits with a negative power of ten are less than their leading digit with a power of two. -/
theorem decimalValue_lt_two_zpow (digits : Nat) {power : Int} (down : power < 0) :
    decimalValue digits power < 2 ^ (digits.log2 + 1 + power) := by
  have size : (digits : ℚ) < 2 ^ (digits.log2 + 1) := by
    exact_mod_cast Nat.lt_log2_self (n := digits)
  have tens : (10 : ℚ) ^ power ≤ 2 ^ power := by
    rw [← neg_neg power, zpow_neg 10 (-power), zpow_neg 2 (-power)]
    have up : 0 ≤ -power := by omega
    exact inv_anti₀ (by positivity) (zpow_le_zpow_left₀ up (by norm_num) (by norm_num))
  have tens' : (0 : ℚ) < 2 ^ power := by positivity
  calc decimalValue digits power ≤ digits * 2 ^ power := by
        rw [decimalValue]
        gcongr
    _ < 2 ^ (digits.log2 + 1) * 2 ^ power := by gcongr
    _ = 2 ^ (digits.log2 + 1 + power) := by
        rw [← zpow_natCast, ← zpow_add₀ (by norm_num)]
        push_cast
        rfl

include nonzero in
/-- Few digits make a double without rounding. -/
theorem parts_shortDigits (short : digits < 2 ^ 53) :
    parts digits.toUInt64.toFloat =
      .finite .positive (fullSignificand digits) (digits.log2 - 52)
        (fullSignificand_pos nonzero) := by
  have whole : (digits : Int) ≠ 0 := by omega
  have plus : signOf (digits : Int) = .positive := signOf_of_pos (by omega)
  have digit := parts_toUInt64_toFloat short
  rwa [wholeParts_of_ne whole, plus] at digit

include nonzero canonical around

/-- A decimal is rounded in one product or quotient of integers. -/
theorem ofScientific_of_around :
    UnpackedFloat.ofScientific .binary64 digits power =
      .finite .positive significand exponent positive := by
  obtain ⟨high, low⟩ := decimalValue_bounds canonical around
  have notLarge : ¬ power > 2 ^ 11 := by
    intro large
    have := exponent_lt_of_two_zpow_lt
      ((two_zpow_le_decimalValue nonzero (by omega)).trans_lt high)
    omega
  have notSmall : ¬ power < -((2 ^ 11 : Int) + digits.log2) := by
    intro small
    have down : power < 0 := by omega
    have := exponent_lt_of_two_zpow_lt (low.trans_lt (decimalValue_lt_two_zpow digits down))
    omega
  unfold UnpackedFloat.ofScientific
  rw [dif_neg (Nat.ne_of_gt nonzero), if_neg notLarge, if_neg notSmall]
  split
  · next up =>
    have same : ((digits <<< 53 : Nat) : ℚ) * 2 ^ (-53 : Int) *
        ((10 ^ power.toNat : Nat) * 2 ^ (0 : Int)) = decimalValue digits power := by
      have unscaled : (2 : ℚ) ^ 53 * 2 ^ (-53 : Int) = 1 := by norm_num
      rw [decimalValue, Nat.shiftLeft_eq, Nat.cast_mul, Nat.cast_pow, Nat.cast_pow,
        Nat.cast_ofNat, Nat.cast_ofNat, zpow_zero, mul_one, mul_assoc (digits : ℚ), unscaled,
        mul_one, ← zpow_natCast 10, Int.toNat_of_nonneg up]
    have many : 2 ^ 52 ≤ digits <<< 53 * 10 ^ power.toNat := by
      have tens : 1 ≤ 10 ^ power.toNat := Nat.one_le_pow _ _ (by decide)
      rw [Nat.shiftLeft_eq]
      nlinarith
    exact Around.mul (same ▸ around) canonical many
  · next down =>
    have same : (digits : ℚ) * 2 ^ (0 : Int) / ((10 ^ (-power).toNat : Nat) * 2 ^ (0 : Int)) =
        decimalValue digits power := by
      have places : ((-power).toNat : Int) = -power := by omega
      rw [decimalValue]
      push_cast
      rw [← zpow_natCast, places, zpow_neg, mul_one, mul_one, div_inv_eq_mul]
    exact Around.div (same ▸ around) canonical

/-- Few digits with a power of ten from the table are rounded in one product of doubles. -/
theorem parts_product {size : Nat} (short : digits < 2 ^ 53) (few : size < 23)
    (up : power = size) :
    parts (digits.toUInt64.toFloat * getElem Float.exactlyRepresentablePowersOfTen size few) =
      .finite .positive significand exponent positive := by
  subst up
  have same : (fullSignificand digits : ℚ) * 2 ^ (digits.log2 - 52 : Int) *
      (fullSignificand (5 ^ size) * 2 ^ ((5 ^ size : Nat).log2 - 52 + size : Int)) =
      decimalValue digits size := by
    rw [value_fullSignificand nonzero short, value_powerParts few, decimalValue, zpow_natCast]
  have many : 2 ^ 52 ≤ fullSignificand digits * fullSignificand (5 ^ size) :=
    (two_pow_le_fullSignificand nonzero short).trans
      (Nat.le_mul_of_pos_right _ (fullSignificand_pos (by positivity)))
  have product : UnpackedFloat.mul .binary64 (parts digits.toUInt64.toFloat)
      (parts (getElem Float.exactlyRepresentablePowersOfTen size few)) =
        .finite .positive significand exponent positive := by
    rw [parts_shortDigits nonzero short, parts_exactlyRepresentablePowersOfTen size few]
    exact Around.mul (same ▸ around) canonical many
  rw [parts_mul (product ▸ canonical), product]

/-- Few digits over a power of ten from the table are rounded in one quotient of doubles. -/
theorem parts_quotient {size : Nat} (short : digits < 2 ^ 53) (few : size < 23)
    (down : power = -size) :
    parts (digits.toUInt64.toFloat / getElem Float.exactlyRepresentablePowersOfTen size few) =
      .finite .positive significand exponent positive := by
  subst down
  have same : (fullSignificand digits : ℚ) * 2 ^ (digits.log2 - 52 : Int) /
      (fullSignificand (5 ^ size) * 2 ^ ((5 ^ size : Nat).log2 - 52 + size : Int)) =
      decimalValue digits (-size) := by
    rw [value_fullSignificand nonzero short, value_powerParts few, decimalValue, zpow_neg,
      zpow_natCast, div_eq_mul_inv]
  have quotient : UnpackedFloat.div .binary64 (parts digits.toUInt64.toFloat)
      (parts (getElem Float.exactlyRepresentablePowersOfTen size few)) =
        .finite .positive significand exponent positive := by
    rw [parts_shortDigits nonzero short, parts_exactlyRepresentablePowersOfTen size few]
    exact Around.div (same ▸ around) canonical
  rw [parts_div (quotient ▸ canonical), quotient]

/-- Digits with a power of ten are read as the double that the decimal is around. -/
theorem parts_ofScientific :
    parts (Float.ofScientific digits (decide (power < 0)) power.natAbs) =
      .finite .positive significand exponent positive := by
  have signed : (if power < 0 then Int.negOfNat power.natAbs else Int.ofNat power.natAbs) = power := by
    split
    · rw [Int.negOfNat_eq]
      change -(power.natAbs : Int) = power
      omega
    · exact Int.natAbs_of_nonneg (by omega)
  unfold Float.ofScientific
  split
  · next known =>
    have few := Nat.lt_succ_of_le known.2
    by_cases down : power < 0
    · simp only [down, decide_true, if_true]
      exact parts_quotient nonzero canonical around known.1 few (by omega)
    · simp only [down, decide_false, Bool.false_eq_true, if_false]
      exact parts_product nonzero canonical around known.1 few (by omega)
  · have rounded := ofScientific_of_around nonzero canonical around
    simp only [decide_eq_true_eq, signed]
    exact (parts_ofParts (rounded ▸ canonical)).trans rounded

end Reading

/-- A numeral is read as the double that its decimal is around, with the sign of the numeral. -/
theorem parts_toFloat {digits significand : Nat} {power exponent : Int} {sign : Sign}
    {positive : 0 < significand} (nonzero : 0 < digits)
    (canonical : Canonical .binary64 (.finite sign significand exponent positive))
    (around : Around significand exponent (decimalValue digits power)) :
    parts (Numeral.toFloat (.finite (sign == .negative) digits power)) =
      .finite sign significand exponent positive := by
  have canonical' : Canonical .binary64 (.finite .positive significand exponent positive) :=
    canonical
  have size := parts_ofScientific nonzero canonical' around
  cases sign with
  | positive => exact size
  | negative =>
      have turned : (parts (Float.ofScientific digits (decide (power < 0)) power.natAbs)).neg =
          .finite .negative significand exponent positive := by
        rw [size]
        rfl
      exact (parts_neg (turned ▸ canonical)).trans turned

end Number
end PropertyBinding
