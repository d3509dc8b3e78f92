import Mathlib
import PropertyBinding.Proofs.Narrowing

namespace PropertyBinding
namespace Number

open Float.Model UnpackedFloat

/-!
# Whole numbers as doubles

Every integer of less than 53 binary digits is a double, whose significand has the
digits of the integer in front and zeros behind them.  A sum, a difference or a product
of two such doubles is the double of the exact result as long as that has no more digits.
A quotient that does not come out even is no whole number, because the fraction that is
left is far larger than what rounding moves; and what has 33 digits or more before it is
rounded still has so many afterwards.
-/

/-! ## Parts of a whole number -/

/-- The sign that the double of an integer has. -/
def signOf (value : Int) : Sign :=
  if value < 0 then .negative else .positive

theorem signOf_of_neg {value : Int} (below : value < 0) : signOf value = .negative :=
  if_pos below

theorem signOf_of_pos {value : Int} (above : 0 < value) : signOf value = .positive :=
  if_neg (Int.not_lt.mpr (Int.le_of_lt above))

/-- The significand of the double of a positive number, with all the digits of the format. -/
def fullSignificand (size : Nat) : Nat :=
  size <<< (52 - size.log2)

theorem fullSignificand_pos {size : Nat} (positive : 0 < size) : 0 < fullSignificand size :=
  shiftLeft_pos positive _

/-- The parts of the double of an integer. -/
def wholeParts (value : Int) : UnpackedFloat :=
  if zero : value = 0 then
    .zero .positive
  else
    .finite (signOf value) (fullSignificand value.natAbs) (value.natAbs.log2 - 52)
      (fullSignificand_pos (Int.natAbs_pos.mpr zero))

theorem wholeParts_zero : wholeParts 0 = .zero .positive :=
  rfl

theorem wholeParts_of_ne {value : Int} (nonzero : value ≠ 0) :
    wholeParts value =
      .finite (signOf value) (fullSignificand value.natAbs) (value.natAbs.log2 - 52)
        (fullSignificand_pos (Int.natAbs_pos.mpr nonzero)) :=
  dif_neg nonzero

theorem log2_lt_of_lt {size : Nat} (positive : 0 < size) (small : size < 2 ^ 53) :
    size.log2 < 53 :=
  (Nat.log2_lt (Nat.ne_of_gt positive)).mpr small

theorem log2_fullSignificand {size : Nat} (positive : 0 < size) (small : size < 2 ^ 53) :
    (fullSignificand size).log2 = 52 := by
  have digits := log2_lt_of_lt positive small
  rw [fullSignificand, log2_shiftLeft positive]
  omega

theorem canonical_whole {value : Int} (small : value.natAbs < 2 ^ 53) :
    Canonical .binary64 (wholeParts value) := by
  by_cases zero : value = 0
  · rw [zero]
    trivial
  · have positive := Int.natAbs_pos.mpr zero
    have digits := log2_lt_of_lt positive small
    rw [wholeParts_of_ne zero]
    simp only [Canonical, log2_fullSignificand positive small, storedExponent, Format.exponentBias]
    omega

/-! ## Rounding what is whole -/

theorem targetExponent_of_normal {total : Int} (normal : -1021 ≤ total) :
    Format.binary64.targetExponent total = total - 53 := by
  simp only [Format.targetExponent, Format.mantissaBits, Format.minExponent]
  omega

theorem aimed_full {size : Nat} (positive : 0 < size) (small : size < 2 ^ 53) :
    Format.binary64.targetExponent (totalExponent (fullSignificand size) (size.log2 - 52)) =
      size.log2 - 52 := by
  simp only [totalExponent, log2_fullSignificand positive small]
  rw [targetExponent_of_normal] <;> omega

/-- A number with some zeros behind its digits rounds to the double of the number. -/
theorem round_whole (sign : Sign) {size : Nat} (positive : 0 < size) (small : size < 2 ^ 53)
    (places : Nat) :
    UnpackedFloat.round .binary64 sign (size <<< places) (-places) =
      .finite sign (fullSignificand size) (size.log2 - 52) (fullSignificand_pos positive) := by
  have digits := log2_lt_of_lt positive small
  by_cases few : places ≤ 52 - size.log2
  · have aimed := aimed_full positive small
    have total : totalExponent (size <<< places) (-places) =
        totalExponent (fullSignificand size) (size.log2 - 52) := by
      simp only [totalExponent, log2_shiftLeft positive, log2_fullSignificand positive small]
      omega
    rw [← total] at aimed
    rw [round_of_low sign (shiftLeft_pos positive places) aimed (by omega)]
    congr 1
    rw [← Nat.shiftLeft_add, fullSignificand]
    congr 1
    omega
  · have exponent : (-(places : Int)) =
        (size.log2 - 52 : Int) - ((places - (52 - size.log2) : Nat) : Int) := by omega
    have shifted : size <<< places =
        fullSignificand size <<< (places - (52 - size.log2)) := by
      rw [fullSignificand, ← Nat.shiftLeft_add]
      congr 1
      omega
    rw [shifted, exponent]
    exact round_shiftLeft sign (fullSignificand_pos positive) _ (aimed_full positive small)

theorem apply_signOf (value : Int) : (signOf value).apply value.natAbs = value := by
  unfold signOf
  split <;> simp only [Sign.apply] <;> omega

/-- What is rounded with enough zeros behind it is the double of the number. -/
theorem roundWithAccuracy_whole (sign : Sign) {size places : Nat} (positive : 0 < size)
    (small : size < 2 ^ 53) (many : 52 ≤ places + size.log2) :
    roundWithAccuracy .binary64 sign (size <<< places) (-places) .exact =
      .finite sign (fullSignificand size) (size.log2 - 52) (fullSignificand_pos positive) := by
  have digits := log2_lt_of_lt positive small
  have exponent : (-(places : Int)) =
      (size.log2 - 52 : Int) - ((places - (52 - size.log2) : Nat) : Int) := by omega
  have shifted : size <<< places = fullSignificand size <<< (places - (52 - size.log2)) := by
    rw [fullSignificand, ← Nat.shiftLeft_add]
    congr 1
    omega
  rw [shifted, exponent]
  exact roundWithAccuracy_shiftLeft sign (fullSignificand_pos positive) _
    (aimed_full positive small)

theorem signOf_neg {value : Int} (nonzero : value ≠ 0) : signOf (-value) = -signOf value := by
  unfold signOf
  split <;> split <;> first | rfl | omega

/-- A number that is written with zeros behind it is rounded to its double. -/
theorem normalize_whole {value : Int} (small : value.natAbs < 2 ^ 53) (places : Nat) :
    UnpackedFloat.normalize .binary64 (value * 2 ^ places) (-places) .positive =
      wholeParts value := by
  have power : (0 : Int) < 2 ^ places := by positivity
  have size : (value * 2 ^ places).natAbs = value.natAbs <<< places := by
    rw [Int.natAbs_mul, Int.natAbs_pow, Nat.shiftLeft_eq]
    rfl
  rcases lt_trichotomy value 0 with below | rfl | above
  · have negative : value * 2 ^ places < 0 := Int.mul_neg_of_neg_of_pos below power
    have magnitude : (-(value * 2 ^ places)).toNat = value.natAbs <<< places := by omega
    have nonzero : value ≠ 0 := Int.ne_of_lt below
    simp only [UnpackedFloat.normalize, compare_lt_iff_lt.mpr negative, magnitude]
    rw [round_whole .negative (Int.natAbs_pos.mpr nonzero) small, wholeParts_of_ne nonzero, signOf,
      if_pos below]
  · simp [UnpackedFloat.normalize, wholeParts]
  · have positive : 0 < value * 2 ^ places := Int.mul_pos above power
    have magnitude : (value * 2 ^ places).toNat = value.natAbs <<< places := by omega
    have nonzero : value ≠ 0 := Int.ne_of_gt above
    simp only [UnpackedFloat.normalize, compare_gt_iff_gt.mpr positive, magnitude]
    rw [round_whole .positive (Int.natAbs_pos.mpr nonzero) small, wholeParts_of_ne nonzero, signOf,
      if_neg (Int.not_lt.mpr (Int.le_of_lt above))]

/-! ## Sums, differences and products -/

/-- The significand of a double of an integer, with zeros behind it down to some exponent. -/
theorem fullSignificand_shiftLeft {size : Nat} {least : Int} (positive : 0 < size)
    (small : size < 2 ^ 53) (low : least ≤ size.log2 - 52) :
    fullSignificand size <<< ((size.log2 - 52 : Int) - least).toNat = size <<< (-least).toNat := by
  have digits := log2_lt_of_lt positive small
  rw [fullSignificand, ← Nat.shiftLeft_add]
  congr 1
  omega

theorem apply_aligned {value least : Int} (small : value.natAbs < 2 ^ 53) (nonzero : value ≠ 0)
    (low : least ≤ value.natAbs.log2 - 52) :
    (signOf value).apply
        (fullSignificand value.natAbs <<< ((value.natAbs.log2 - 52 : Int) - least).toNat : Nat) =
      value * 2 ^ (-least).toNat := by
  rw [fullSignificand_shiftLeft (Int.natAbs_pos.mpr nonzero) small low, Nat.shiftLeft_eq]
  conv_rhs => rw [← apply_signOf value]
  cases signOf value <;> simp [Sign.apply]

section Operations

variable {left right : Int} (left_small : left.natAbs < 2 ^ 53)
  (right_small : right.natAbs < 2 ^ 53)
include left_small right_small

theorem add_whole (small : (left + right).natAbs < 2 ^ 53) :
    UnpackedFloat.add .binary64 (wholeParts left) (wholeParts right) =
      wholeParts (left + right) := by
  by_cases none : left = 0
  · subst none
    rw [Int.zero_add, wholeParts_zero]
    by_cases none' : right = 0
    · rw [none']
      rfl
    · rw [wholeParts_of_ne none']
      rfl
  · by_cases none' : right = 0
    · rw [none', Int.add_zero, wholeParts_zero, wholeParts_of_ne none]
      rfl
    · have digits := log2_lt_of_lt (Int.natAbs_pos.mpr none) left_small
      have digits' := log2_lt_of_lt (Int.natAbs_pos.mpr none') right_small
      rw [wholeParts_of_ne none, wholeParts_of_ne none']
      simp only [UnpackedFloat.add, decreaseExponent]
      rw [apply_aligned left_small none (Int.min_le_left _ _),
        apply_aligned right_small none' (Int.min_le_right _ _), ← Int.add_mul]
      convert normalize_whole small _ using 2
      omega

theorem sub_whole (small : (left - right).natAbs < 2 ^ 53) :
    UnpackedFloat.sub .binary64 (wholeParts left) (wholeParts right) =
      wholeParts (left - right) := by
  by_cases none' : right = 0
  · rw [none', Int.sub_zero, wholeParts_zero]
    by_cases none : left = 0
    · rw [none]
      rfl
    · rw [wholeParts_of_ne none]
      rfl
  · by_cases none : left = 0
    · subst none
      have nonzero : -right ≠ 0 := Int.neg_ne_zero.mpr none'
      rw [Int.zero_sub, wholeParts_zero, wholeParts_of_ne none', wholeParts_of_ne nonzero,
        signOf_neg none']
      simp only [Int.natAbs_neg]
      rfl
    · have digits := log2_lt_of_lt (Int.natAbs_pos.mpr none) left_small
      have digits' := log2_lt_of_lt (Int.natAbs_pos.mpr none') right_small
      rw [wholeParts_of_ne none, wholeParts_of_ne none']
      simp only [UnpackedFloat.sub, decreaseExponent]
      rw [apply_aligned left_small none (Int.min_le_left _ _),
        apply_aligned right_small none' (Int.min_le_right _ _), ← Int.sub_mul]
      convert normalize_whole small _ using 2
      omega

end Operations

theorem signOf_mul {left right : Int} (nonzero : left ≠ 0) (nonzero' : right ≠ 0) :
    signOf (left * right) = signOf left * signOf right := by
  rcases Int.lt_or_gt_of_ne nonzero with below | above <;>
    rcases Int.lt_or_gt_of_ne nonzero' with below' | above'
  · rw [signOf_of_neg below, signOf_of_neg below',
      signOf_of_pos (Int.mul_pos_of_neg_of_neg below below')]
    rfl
  · rw [signOf_of_neg below, signOf_of_pos above',
      signOf_of_neg (Int.mul_neg_of_neg_of_pos below above')]
    rfl
  · rw [signOf_of_pos above, signOf_of_neg below',
      signOf_of_neg (Int.mul_neg_of_pos_of_neg above below')]
    rfl
  · rw [signOf_of_pos above, signOf_of_pos above', signOf_of_pos (Int.mul_pos above above')]
    rfl

/-- A product with a zero has the sign of the other factor. -/
theorem signOf_mul_of_zero {left right : Int} (zero : left = 0 ∨ right = 0) :
    signOf left * signOf right = if left < 0 ∨ right < 0 then .negative else .positive := by
  rcases zero with rfl | rfl
  · by_cases below : right < 0 <;> simp [signOf, below] <;> rfl
  · by_cases below : left < 0 <;> simp [signOf, below] <;> rfl

/-- The digits of a product are at least as many as those of the factors together, but for one. -/
theorem log2_mul_ge {size size' : Nat} (positive : 0 < size) (positive' : 0 < size') :
    size.log2 + size'.log2 ≤ (size * size').log2 := by
  rw [Nat.le_log2 (Nat.ne_of_gt (Nat.mul_pos positive positive')), Nat.pow_add]
  exact Nat.mul_le_mul (Nat.log2_self_le (Nat.ne_of_gt positive))
    (Nat.log2_self_le (Nat.ne_of_gt positive'))

/-- A product is the exact one, with all the zeros of both factors behind it, and rounded. -/
theorem mul_parts {left right : Int} (left_small : left.natAbs < 2 ^ 53)
    (right_small : right.natAbs < 2 ^ 53) (nonzero : left ≠ 0) (nonzero' : right ≠ 0) :
    ∃ places : Nat, 52 ≤ places + (left * right).natAbs.log2 ∧
      UnpackedFloat.mul .binary64 (wholeParts left) (wholeParts right) =
        roundWithAccuracy .binary64 (signOf (left * right)) ((left * right).natAbs <<< places)
          (-places) .exact := by
  have digits := log2_lt_of_lt (Int.natAbs_pos.mpr nonzero) left_small
  have digits' := log2_lt_of_lt (Int.natAbs_pos.mpr nonzero') right_small
  have more := log2_mul_ge (Int.natAbs_pos.mpr nonzero) (Int.natAbs_pos.mpr nonzero')
  refine ⟨52 - left.natAbs.log2 + (52 - right.natAbs.log2), ?_, ?_⟩
  · rw [Int.natAbs_mul]
    omega
  · rw [wholeParts_of_ne nonzero, wholeParts_of_ne nonzero', signOf_mul nonzero nonzero',
      Int.natAbs_mul]
    simp only [UnpackedFloat.mul, fullSignificand, Nat.shiftLeft_eq]
    congr 1
    · ring
    · omega

theorem mul_whole {left right : Int} (left_small : left.natAbs < 2 ^ 53)
    (right_small : right.natAbs < 2 ^ 53) (nonzero : left ≠ 0) (nonzero' : right ≠ 0)
    (small : (left * right).natAbs < 2 ^ 53) :
    UnpackedFloat.mul .binary64 (wholeParts left) (wholeParts right) =
      wholeParts (left * right) := by
  obtain ⟨places, many, product⟩ := mul_parts left_small right_small nonzero nonzero'
  have nonzero := Int.mul_ne_zero nonzero nonzero'
  have positive := Int.natAbs_pos.mpr nonzero
  rw [product, wholeParts_of_ne nonzero, roundWithAccuracy_whole _ positive small many]

/-- A factor of zero makes the product a zero, whose sign is that of a product. -/
theorem mul_none {left right : Int} (none : left = 0 ∨ right = 0) :
    UnpackedFloat.mul .binary64 (wholeParts left) (wholeParts right) =
      .zero (signOf left * signOf right) := by
  by_cases first : left = 0
  · rw [first, wholeParts_zero]
    by_cases second : right = 0
    · rw [second]
      rfl
    · rw [wholeParts_of_ne second]
      rfl
  · rw [none.resolve_left first, wholeParts_zero, wholeParts_of_ne first]
    rfl

/-! ## Rounding what is not whole -/

theorem mantissa_shiftRight (mantissa : ExtendedMantissa) (places : Nat) :
    (mantissa >>> places).mantissa = mantissa.mantissa >>> places := by
  change (Nat.repeat ExtendedMantissa.shiftRightOne places mantissa).mantissa = _
  induction places with
  | zero => rfl
  | succ places step =>
      rw [Nat.repeat, Nat.shiftRight_succ, ← step]
      rfl

theorem mantissa_ofMantissaAndAccuracy (significand : Nat) (accuracy : Accuracy) :
    (ExtendedMantissa.ofMantissaAndAccuracy significand accuracy).mantissa = significand := by
  unfold ExtendedMantissa.ofMantissaAndAccuracy
  split <;> rfl

/-- Rounding goes down, or up by one. -/
theorem roundedMantissa_cases (mantissa : ExtendedMantissa) :
    mantissa.roundedMantissa = mantissa.mantissa ∨
      mantissa.roundedMantissa = mantissa.mantissa + 1 := by
  unfold ExtendedMantissa.roundedMantissa Accuracy.roundToNearestEven
  split
  · exact .inl rfl
  · exact .inl rfl
  · omega
  · exact .inr rfl

/-- The first 53 digits of a number with so many. -/
theorem shiftRight_full {significand : Nat} (full : 52 ≤ significand.log2) :
    2 ^ 52 ≤ significand >>> (significand.log2 - 52) ∧
      significand >>> (significand.log2 - 52) < 2 ^ 53 := by
  have nonzero : significand ≠ 0 := by
    rintro rfl
    simp at full
  have size := (Nat.log2_eq_iff nonzero).mp rfl
  constructor
  · rw [Nat.shiftRight_eq_div_pow, Nat.le_div_iff_mul_le (Nat.two_pow_pos _), ← Nat.pow_add]
    convert size.1 using 2
    omega
  · rw [Nat.shiftRight_eq_div_pow, Nat.div_lt_iff_lt_mul (Nat.two_pow_pos _), ← Nat.pow_add]
    convert size.2 using 2
    omega

/-- When rounding gives another digit, another shift takes the zero behind it off. -/
theorem roundWithAccuracy_of_carry (sign : Sign) {significand : Nat} {exponent reached : Int}
    {accuracy : Accuracy} {first : ExtendedMantissa}
    (once : shiftToTargetExponent .binary64 significand exponent accuracy = (first, reached))
    (normal : -1021 ≤ 53 + reached) (carries : first.roundedMantissa = 2 ^ 53) :
    roundWithAccuracy .binary64 sign significand exponent accuracy =
      .finite sign (2 ^ 52) (reached + 1) (Nat.two_pow_pos 52) := by
  have log : (2 ^ 53 : Nat).log2 = 53 := Nat.log2_two_pow
  have again : Format.binary64.targetExponent (totalExponent (2 ^ 53) reached) = reached + 1 := by
    rw [totalExponent, log, targetExponent_of_normal] <;> omega
  have twice : shiftToTargetExponent .binary64 (2 ^ 53) reached .exact =
      (⟨2 ^ 52, false, false⟩, reached + 1) := by
    rw [shiftToTargetExponent, again, shiftToExponent]
    have step : (reached + 1 - reached).toNat = 1 := by omega
    rw [step]
    rfl
  simp only [roundWithAccuracy, once, carries, twice]
  exact dif_neg (Nat.ne_of_gt (Nat.two_pow_pos 52))

/-- What is left of 53 digits when they are rounded; another digit takes another shift. -/
theorem roundWithAccuracy_of_shifted (sign : Sign) {significand : Nat} {exponent reached : Int}
    {accuracy : Accuracy} {first : ExtendedMantissa}
    (once : shiftToTargetExponent .binary64 significand exponent accuracy = (first, reached))
    (normal : -1021 ≤ 53 + reached) (low : 2 ^ 52 ≤ first.roundedMantissa)
    (high : first.roundedMantissa ≤ 2 ^ 53) :
    ∃ rounded carry : Nat, ∃ positive : 0 < rounded,
      rounded <<< carry = first.roundedMantissa ∧ carry ≤ 1 ∧ rounded.log2 = 52 ∧
      roundWithAccuracy .binary64 sign significand exponent accuracy =
        .finite sign rounded (reached + carry) positive := by
  by_cases carries : first.roundedMantissa = 2 ^ 53
  · have double : 2 ^ 52 <<< 1 = first.roundedMantissa := by
      rw [carries, Nat.shiftLeft_eq, ← Nat.pow_add]
    exact ⟨2 ^ 52, 1, Nat.two_pow_pos 52, double, Nat.le_refl 1, Nat.log2_two_pow,
      roundWithAccuracy_of_carry sign once normal carries⟩
  · have log : first.roundedMantissa.log2 = 52 := by
      rw [Nat.log2_eq_iff] <;> omega
    have again : Format.binary64.targetExponent (totalExponent first.roundedMantissa reached) =
        reached := by
      rw [totalExponent, log, targetExponent_of_normal] <;> omega
    refine ⟨first.roundedMantissa, 0, by omega, Nat.shiftLeft_zero, Nat.zero_le 1, log, ?_⟩
    have twice : shiftToTargetExponent .binary64 first.roundedMantissa reached .exact =
        (⟨first.roundedMantissa, false, false⟩, reached + (0 : Nat)) := by
      rw [shiftToTargetExponent, again, shiftToExponent]
      have stay : (reached - reached).toNat = 0 := by omega
      rw [stay]
      rfl
    simp only [roundWithAccuracy, once, twice]
    exact dif_neg (by omega)

/--
What is rounded with at least 53 digits keeps the first 53, or one more than those say; if
that takes another digit, the last one is a zero and goes.
-/
theorem roundWithAccuracy_full (sign : Sign) {significand : Nat} (exponent : Int)
    (accuracy : Accuracy) (full : 52 ≤ significand.log2)
    (normal : -1021 ≤ totalExponent significand exponent) :
    ∃ rounded carry : Nat, ∃ positive : 0 < rounded,
      (rounded <<< carry = significand >>> (significand.log2 - 52) ∨
        rounded <<< carry = significand >>> (significand.log2 - 52) + 1) ∧
      carry ≤ 1 ∧ rounded.log2 = 52 ∧
      roundWithAccuracy .binary64 sign significand exponent accuracy =
        .finite sign rounded (exponent + (significand.log2 - 52 : Nat) + carry) positive := by
  have target : Format.binary64.targetExponent (totalExponent significand exponent) =
      exponent + (significand.log2 - 52 : Nat) := by
    rw [targetExponent_of_normal normal, totalExponent]
    omega
  have dropped : (exponent + ((significand.log2 - 52 : Nat) : Int) - exponent).toNat =
      significand.log2 - 52 := by omega
  let first : ExtendedMantissa :=
    ExtendedMantissa.ofMantissaAndAccuracy significand accuracy >>> (significand.log2 - 52)
  have once : shiftToTargetExponent .binary64 significand exponent accuracy =
      (first, exponent + (significand.log2 - 52 : Nat)) := by
    rw [shiftToTargetExponent, target, shiftToExponent, dropped]
  have kept : first.mantissa = significand >>> (significand.log2 - 52) := by
    rw [mantissa_shiftRight, mantissa_ofMantissaAndAccuracy]
  have rounds := roundedMantissa_cases first
  rw [kept] at rounds
  have digits := shiftRight_full full
  rw [totalExponent] at normal
  obtain ⟨rounded, carry, positive, same, few, log, result⟩ :=
    roundWithAccuracy_of_shifted sign once (by omega) (by omega) (by omega)
  exact ⟨rounded, carry, positive, same ▸ rounds, few, log, result⟩

/-- The digits of a product are at most as many as those of the factors together. -/
theorem log2_mul_le {size size' : Nat} (positive : 0 < size) (positive' : 0 < size') :
    (size * size').log2 ≤ size.log2 + size'.log2 + 1 := by
  have below : size * size' < 2 ^ (size.log2 + size'.log2 + 2) := by
    calc size * size' < 2 ^ (size.log2 + 1) * 2 ^ (size'.log2 + 1) :=
          Nat.mul_lt_mul'' Nat.lt_log2_self Nat.lt_log2_self
      _ = 2 ^ (size.log2 + size'.log2 + 2) := by rw [← Nat.pow_add]; congr 1; omega
  exact Nat.le_of_lt_succ ((Nat.log2_lt (Nat.ne_of_gt (Nat.mul_pos positive positive'))).mpr below)

/-- A product with too many digits keeps the first 53, which are before the point. -/
theorem mul_high {left right : Int} (left_small : left.natAbs < 2 ^ 53)
    (right_small : right.natAbs < 2 ^ 53) (large : 2 ^ 53 ≤ (left * right).natAbs) :
    ∃ sign significand exponent, ∃ positive : 0 < significand,
      UnpackedFloat.mul .binary64 (wholeParts left) (wholeParts right) =
        .finite sign significand exponent positive ∧ significand.log2 = 52 ∧
      0 ≤ exponent ∧ exponent ≤ 56 := by
  have nonzero : left ≠ 0 := by
    rintro rfl
    simp at large
  have nonzero' : right ≠ 0 := by
    rintro rfl
    simp at large
  have positive : 0 < (left * right).natAbs := by omega
  have digits := log2_lt_of_lt (Int.natAbs_pos.mpr nonzero) left_small
  have digits' := log2_lt_of_lt (Int.natAbs_pos.mpr nonzero') right_small
  have fewer := log2_mul_le (Int.natAbs_pos.mpr nonzero) (Int.natAbs_pos.mpr nonzero')
  rw [← Int.natAbs_mul] at fewer
  have many : 53 ≤ (left * right).natAbs.log2 := (Nat.le_log2 (Nat.ne_of_gt positive)).mpr large
  obtain ⟨places, -, product⟩ := mul_parts left_small right_small nonzero nonzero'
  have log := log2_shiftLeft positive places
  have more : 52 ≤ ((left * right).natAbs <<< places).log2 := by omega
  obtain ⟨rounded, carry, positive', -, once, full, result⟩ :=
    roundWithAccuracy_full (signOf (left * right)) (-places) .exact more
      (by rw [totalExponent]; omega)
  exact ⟨_, rounded, _, positive', product.trans result, full, by omega, by omega⟩

/-! ## Quotients -/

section Quotients

variable {left right : Int} (left_small : left.natAbs < 2 ^ 53)
  (right_small : right.natAbs < 2 ^ 53) (nonzero : left ≠ 0) (nonzero' : right ≠ 0)
include left_small right_small nonzero nonzero'

/-- A quotient is taken to 53 or 54 digits, and then rounded. -/
theorem div_parts :
    UnpackedFloat.div .binary64 (wholeParts left) (wholeParts right) =
      roundWithAccuracy .binary64 (signOf left / signOf right)
        (fullSignificand left.natAbs <<< 53 / fullSignificand right.natAbs)
        ((left.natAbs.log2 : Int) - right.natAbs.log2 - 53)
        (accuracyOfFraction (fullSignificand left.natAbs <<< 53 % fullSignificand right.natAbs)
          (fullSignificand right.natAbs)) := by
  have positive := Int.natAbs_pos.mpr nonzero
  have positive' := Int.natAbs_pos.mpr nonzero'
  have digits := log2_lt_of_lt positive left_small
  have digits' := log2_lt_of_lt positive' right_small
  have target : Format.binary64.targetExponent
      (totalExponent (fullSignificand left.natAbs) (left.natAbs.log2 - 52) -
        totalExponent (fullSignificand right.natAbs) (right.natAbs.log2 - 52)) =
      (left.natAbs.log2 : Int) - right.natAbs.log2 - 53 := by
    rw [totalExponent, totalExponent, log2_fullSignificand positive left_small,
      log2_fullSignificand positive' right_small, targetExponent_of_normal] <;> omega
  have least : min ((left.natAbs.log2 - 52 : Int) - (right.natAbs.log2 - 52))
      ((left.natAbs.log2 : Int) - right.natAbs.log2 - 53) =
      (left.natAbs.log2 : Int) - right.natAbs.log2 - 53 := by omega
  have places : ((left.natAbs.log2 - 52 : Int) - (right.natAbs.log2 - 52) -
      ((left.natAbs.log2 : Int) - right.natAbs.log2 - 53)).toNat = 53 := by omega
  rw [wholeParts_of_ne nonzero, wholeParts_of_ne nonzero']
  simp only [UnpackedFloat.div, divCore, target, least, places]

end Quotients

/-- A quotient that comes out even is the double of the exact one. -/
theorem div_whole {quotient right : Int} (small : (right * quotient).natAbs < 2 ^ 53)
    (right_small : right.natAbs < 2 ^ 53) (nonzero : quotient ≠ 0) (nonzero' : right ≠ 0) :
    UnpackedFloat.div .binary64 (wholeParts (right * quotient)) (wholeParts right) =
      wholeParts quotient := by
  have positive := Int.natAbs_pos.mpr nonzero
  have positive' := Int.natAbs_pos.mpr nonzero'
  have product := Int.mul_ne_zero nonzero' nonzero
  have quotient_small : quotient.natAbs < 2 ^ 53 := by
    rw [Int.natAbs_mul] at small
    exact Nat.lt_of_le_of_lt (Nat.le_mul_of_pos_left _ positive') small
  have digits := log2_lt_of_lt (Int.natAbs_pos.mpr product) small
  have digits' := log2_lt_of_lt positive' right_small
  have fewer := log2_mul_le positive' positive
  have size : (right * quotient).natAbs = right.natAbs * quotient.natAbs := Int.natAbs_mul ..
  rw [← size] at fewer
  -- The dividend is the divisor as often as the quotient says, with some zeros behind it.
  have dividend : fullSignificand (right * quotient).natAbs <<< 53 =
      fullSignificand right.natAbs *
        quotient.natAbs <<< (53 + right.natAbs.log2 - (right * quotient).natAbs.log2) := by
    have powers : 2 ^ (52 - (right * quotient).natAbs.log2) * 2 ^ 53 =
        2 ^ (52 - right.natAbs.log2) *
          2 ^ (53 + right.natAbs.log2 - (right * quotient).natAbs.log2) := by
      rw [← Nat.pow_add, ← Nat.pow_add]
      congr 1
      omega
    simp only [fullSignificand, Nat.shiftLeft_eq]
    rw [Nat.mul_assoc, powers, size]
    ring
  have sign : signOf (right * quotient) / signOf right = signOf quotient := by
    rw [signOf_mul nonzero' nonzero]
    cases signOf right <;> cases signOf quotient <;> rfl
  have exponent : ((right * quotient).natAbs.log2 : Int) - right.natAbs.log2 - 53 =
      -((53 + right.natAbs.log2 - (right * quotient).natAbs.log2 : Nat) : Int) := by omega
  have even : accuracyOfFraction 0 (fullSignificand right.natAbs) = .exact := rfl
  rw [div_parts small right_small product nonzero', dividend,
    Nat.mul_div_cancel_left _ (fullSignificand_pos positive'), Nat.mul_mod_right, even, sign,
    exponent, roundWithAccuracy_whole _ positive quotient_small (by omega),
    wholeParts_of_ne nonzero]

/-- A dividend of zero makes the quotient a zero, whose sign is that of a quotient. -/
theorem div_none {right : Int} (nonzero : right ≠ 0) :
    UnpackedFloat.div .binary64 (wholeParts 0) (wholeParts right) = .zero (signOf right) := by
  rw [wholeParts_zero, wholeParts_of_ne nonzero]
  cases signOf right <;> rfl

/--
A whole number next to a quotient, both with many zeros behind the point, is the exact
quotient: otherwise the two would be further apart.
-/
theorem mul_eq_of_near {dividend divisor scale unit near whole : Nat} (positive : 0 < unit)
    (wide : 2 * unit < scale) (aligned : near * unit = whole * divisor * scale)
    (high : near ≤ dividend * scale / unit + 2) (low : dividend * scale / unit ≤ near + 1) :
    whole * divisor = dividend := by
  have split := Nat.div_add_mod (dividend * scale) unit
  have rest := Nat.mod_lt (dividend * scale) positive
  have above := Nat.mul_le_mul_right unit high
  have below := Nat.mul_le_mul_right unit low
  rw [aligned, Nat.add_mul, Nat.mul_comm _ unit] at above
  rw [Nat.add_mul, aligned, Nat.mul_comm _ unit] at below
  rcases Nat.lt_trichotomy (whole * divisor) dividend with less | same | more
  · have gap := Nat.mul_le_mul_right scale less
    rw [Nat.succ_mul] at gap
    omega
  · exact same
  · have gap := Nat.mul_le_mul_right scale more
    rw [Nat.succ_mul] at gap
    omega

/-- Cutting one digit at most, and rounding up at most once, moves a number by no more than 2. -/
theorem near_of_rounded {significand rounded carry : Nat} (cut : significand.log2 ≤ 53)
    (rounds : rounded <<< carry = significand >>> (significand.log2 - 52) ∨
      rounded <<< carry = significand >>> (significand.log2 - 52) + 1) :
    rounded <<< carry <<< (significand.log2 - 52) ≤ significand + 2 ∧
      significand ≤ rounded <<< carry <<< (significand.log2 - 52) + 1 := by
  have few : significand.log2 - 52 = 0 ∨ significand.log2 - 52 = 1 := by omega
  rcases few with none | one
  · rw [none, Nat.shiftRight_zero] at rounds
    rw [none, Nat.shiftLeft_zero]
    omega
  · rw [one, Nat.shiftRight_eq_div_pow] at rounds
    rw [one, Nat.shiftLeft_eq (rounded <<< carry)]
    omega

/-- A quotient is first taken with 53 or 54 digits. -/
theorem log2_quotient {size size' : Nat} (positive : 0 < size) (positive' : 0 < size')
    (small : size < 2 ^ 53) (small' : size' < 2 ^ 53) :
    52 ≤ (fullSignificand size <<< 53 / fullSignificand size').log2 ∧
      (fullSignificand size <<< 53 / fullSignificand size').log2 ≤ 53 := by
  have unit := (Nat.log2_eq_iff (Nat.ne_of_gt (fullSignificand_pos positive'))).mp
    (log2_fullSignificand positive' small')
  have log : (fullSignificand size <<< 53).log2 = 105 := by
    rw [log2_shiftLeft (fullSignificand_pos positive), log2_fullSignificand positive small]
  have dividend := (Nat.log2_eq_iff
    (Nat.ne_of_gt (shiftLeft_pos (fullSignificand_pos positive) 53))).mp log
  have low : 2 ^ 52 ≤ fullSignificand size <<< 53 / fullSignificand size' := by
    rw [Nat.le_div_iff_mul_le (fullSignificand_pos positive')]
    omega
  have high : fullSignificand size <<< 53 / fullSignificand size' < 2 ^ 54 := by
    rw [Nat.div_lt_iff_lt_mul (fullSignificand_pos positive')]
    omega
  have nonzero : fullSignificand size <<< 53 / fullSignificand size' ≠ 0 := by omega
  exact ⟨(Nat.le_log2 nonzero).mpr low, Nat.le_of_lt_succ ((Nat.log2_lt nonzero).mpr high)⟩

/-- The zeros behind both factors are the zeros behind the product. -/
theorem shifted_mul_fullSignificand {whole size places carry cut total : Nat}
    (sum : places + carry + cut + (52 - size.log2) = total) :
    (2 ^ places * whole) <<< carry <<< cut * fullSignificand size = whole * size * 2 ^ total := by
  simp only [fullSignificand, Nat.shiftLeft_eq, ← sum, Nat.pow_add]
  ring

/-- A quotient that does not come out even has a fraction, also after it is rounded. -/
theorem div_uneven {left right : Int} (left_small : left.natAbs < 2 ^ 32)
    (right_small : right.natAbs < 2 ^ 32) (nonzero : right ≠ 0) (uneven : ¬ right ∣ left) :
    ∃ sign significand exponent, ∃ positive : 0 < significand,
      UnpackedFloat.div .binary64 (wholeParts left) (wholeParts right) =
        .finite sign significand exponent positive ∧ significand.log2 = 52 ∧
      -1021 ≤ exponent ∧ exponent < 0 ∧ ¬ 2 ^ (-exponent).toNat ∣ significand := by
  have nonzero' : left ≠ 0 := by
    rintro rfl
    exact uneven (Int.dvd_zero right)
  have positive := Int.natAbs_pos.mpr nonzero'
  have positive' := Int.natAbs_pos.mpr nonzero
  have digits : left.natAbs.log2 < 32 := (Nat.log2_lt (Nat.ne_of_gt positive)).mpr left_small
  have digits' : right.natAbs.log2 < 32 := (Nat.log2_lt (Nat.ne_of_gt positive')).mpr right_small
  have left_small : left.natAbs < 2 ^ 53 := by omega
  have right_small : right.natAbs < 2 ^ 53 := by omega
  have parts := div_parts left_small right_small nonzero' nonzero
  have lengths := log2_quotient positive positive' left_small right_small
  have dividend : fullSignificand left.natAbs <<< 53 =
      left.natAbs * 2 ^ (105 - left.natAbs.log2) := by
    rw [fullSignificand, ← Nat.shiftLeft_add, Nat.shiftLeft_eq]
    congr 2
    omega
  generalize quotient_eq : fullSignificand left.natAbs <<< 53 / fullSignificand right.natAbs =
    quotient at parts lengths
  rw [dividend] at quotient_eq
  obtain ⟨rounded, carry, positive'', rounds, once, log, result⟩ :=
    roundWithAccuracy_full (signOf left / signOf right)
      ((left.natAbs.log2 : Int) - right.natAbs.log2 - 53)
      (accuracyOfFraction (fullSignificand left.natAbs <<< 53 % fullSignificand right.natAbs)
        (fullSignificand right.natAbs)) lengths.1 (by rw [totalExponent]; omega)
  refine ⟨_, rounded, _, positive'', parts.trans result, log, by omega, by omega, ?_⟩
  rintro ⟨whole, even⟩
  -- A whole number would be so near to the quotient that it would be the quotient.
  have near := near_of_rounded lengths.2 rounds
  have unit := Nat.lt_log2_self (n := fullSignificand right.natAbs)
  rw [log2_fullSignificand positive' right_small] at unit
  have scale : 2 ^ 74 ≤ 2 ^ (105 - left.natAbs.log2) :=
    Nat.pow_le_pow_right (by decide) (by omega)
  have aligned : rounded <<< carry <<< (quotient.log2 - 52) * fullSignificand right.natAbs =
      whole * right.natAbs * 2 ^ (105 - left.natAbs.log2) := by
    rw [even]
    refine shifted_mul_fullSignificand ?_
    omega
  have exact : whole * right.natAbs = left.natAbs := by
    refine mul_eq_of_near (fullSignificand_pos positive') (by omega) aligned ?_ ?_
    · rw [quotient_eq]
      exact near.1
    · rw [quotient_eq]
      exact near.2
  exact uneven (Int.natAbs_dvd_natAbs.mp ⟨whole, by rw [← exact, Nat.mul_comm]⟩)

end Number
end PropertyBinding
