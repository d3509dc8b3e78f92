import Mathlib
import PropertyBinding.Proofs.Rounding
import PropertyBinding.Proofs.WordArithmetic

namespace PropertyBinding
namespace Number

open Float.Model UnpackedFloat

/-!
# Doubles as rational numbers

A finite double is a rational number, and what the operations on doubles find out from sign,
significand and exponent is what holds of that number: which of two is smaller, whether they
are equal, whether one is whole and which integer it is then.
-/

/-- The rational number that a finite double is; every other double counts as zero. -/
def exactValue (number : Float) : ℚ :=
  match parts number with
  | .finite sign significand exponent _ => (sign.apply significand : ℤ) * 2 ^ exponent
  | _ => 0

theorem canonical_parts (number : Float) : Canonical .binary64 (parts number) :=
  canonical_unpack (by decide) _

section Values

variable {number : Float} {sign : Sign} {significand : Nat} {exponent : Int}
  {positive : 0 < significand}

theorem exactValue_of_finite (found : parts number = .finite sign significand exponent positive) :
    exactValue number = (sign.apply significand : ℤ) * 2 ^ exponent := by
  rw [exactValue, found]

theorem exactValue_of_zero (found : parts number = .zero sign) : exactValue number = 0 := by
  rw [exactValue, found]

theorem exactValue_of_positive
    (found : parts number = .finite .positive significand exponent positive) :
    exactValue number = significand * 2 ^ exponent := by
  rw [exactValue_of_finite found]
  simp [Sign.apply]

theorem exactValue_of_negative
    (found : parts number = .finite .negative significand exponent positive) :
    exactValue number = -(significand * 2 ^ exponent) := by
  rw [exactValue_of_finite found]
  simp [Sign.apply]

theorem finite_of_zero (found : parts number = .zero sign) : number.isFinite = true :=
  congrArg UnpackedFloat.isFinite found

theorem finite_of_finite (found : parts number = .finite sign significand exponent positive) :
    number.isFinite = true :=
  congrArg UnpackedFloat.isFinite found

theorem abs_exactValue (found : parts number = .finite sign significand exponent positive) :
    |exactValue number| = significand * 2 ^ exponent := by
  rw [exactValue_of_finite found, abs_mul, abs_of_pos (by positivity : (0 : ℚ) < 2 ^ exponent)]
  congr 1
  cases sign <;> simp [Sign.apply]

theorem exactValue_pos_iff (found : parts number = .finite sign significand exponent positive) :
    0 < exactValue number ↔ sign = .positive := by
  have size : (0 : ℚ) < significand * 2 ^ exponent := by positivity
  cases sign with
  | positive =>
      rw [exactValue_of_positive found]
      exact iff_of_true size rfl
  | negative =>
      rw [exactValue_of_negative found]
      exact iff_of_false (by linarith) nofun

/-- A finite double is a zero or has a significand and an exponent. -/
theorem zero_or_finite (finite : number.isFinite = true) :
    (∃ sign, parts number = .zero sign) ∨
      ∃ sign significand exponent positive,
        parts number = .finite sign significand exponent positive := by
  have finite' : (parts number).isFinite = true := finite
  cases found : parts number with
  | zero sign => exact .inl ⟨sign, rfl⟩
  | finite sign significand exponent positive => exact .inr ⟨_, _, _, _, rfl⟩
  | _ =>
      rw [found] at finite'
      cases finite'

end Values

/-! ## Order and equality -/

section Order

variable {significand significand' : Nat} {exponent exponent' : Int} {positive : 0 < significand}
  {positive' : 0 < significand'} {sign sign' : Sign}
  (canonical : Canonical .binary64 (.finite sign significand exponent positive))
  (canonical' : Canonical .binary64 (.finite sign' significand' exponent' positive'))
include canonical canonical'

/-- The higher exponent makes the larger number, whatever the significands are. -/
theorem size_lt_of_exponent_lt (less : exponent < exponent') :
    (significand : ℚ) * 2 ^ exponent < significand' * 2 ^ exponent' := by
  obtain ⟨small, least, -, -⟩ := canonical.bounds
  obtain ⟨-, -, -, normal⟩ := canonical'.bounds
  have full : (2 : ℚ) ^ 52 ≤ significand' := by
    exact_mod_cast normal.resolve_left (by omega)
  have short : (significand : ℚ) < 2 ^ 53 := by exact_mod_cast small
  have next : (2 : ℚ) * 2 ^ exponent ≤ 2 ^ exponent' := by
    rw [← zpow_one_add₀ (by norm_num)]
    exact zpow_le_zpow_right₀ (by norm_num) (by omega)
  calc (significand : ℚ) * 2 ^ exponent < 2 ^ 53 * 2 ^ exponent := by gcongr
    _ = 2 ^ 52 * (2 * 2 ^ exponent) := by ring
    _ ≤ significand' * 2 ^ exponent' := by gcongr

/-- The order of exponents first and significands next is the order of the numbers. -/
theorem compare_size : (compare exponent exponent').then (compare significand significand') =
    compare ((significand : ℚ) * 2 ^ exponent) (significand' * 2 ^ exponent') := by
  rcases lt_trichotomy exponent exponent' with less | rfl | more
  · rw [compare_lt_iff_lt.mpr less,
      compare_lt_iff_lt.mpr (size_lt_of_exponent_lt canonical canonical' less)]
    rfl
  · have scale : (0 : ℚ) < 2 ^ exponent := by positivity
    rw [compare_eq_iff_eq.mpr (rfl : exponent = exponent)]
    rcases lt_trichotomy significand significand' with less | rfl | more
    · rw [compare_lt_iff_lt.mpr less, compare_lt_iff_lt.mpr (by gcongr)]
      rfl
    · rw [compare_eq_iff_eq.mpr (rfl : significand = significand), compare_eq_iff_eq.mpr rfl]
      rfl
    · rw [compare_gt_iff_gt.mpr more, compare_gt_iff_gt.mpr (by gcongr)]
      rfl
  · rw [compare_gt_iff_gt.mpr more,
      compare_gt_iff_gt.mpr (size_lt_of_exponent_lt canonical' canonical more)]
    rfl

end Order

section Comparing

variable {left right : Float}

theorem beq_parts : (left == right) = UnpackedFloat.beq (parts left) (parts right) :=
  rfl

theorem lt_iff_parts : left < right ↔ UnpackedFloat.lt (parts left) (parts right) = true := by
  change decide (left.toModel < right.toModel) = true ↔ _
  rw [decide_eq_true_iff]
  exact Iff.rfl

theorem le_iff_parts : left ≤ right ↔ UnpackedFloat.le (parts left) (parts right) = true := by
  change decide (left.toModel ≤ right.toModel) = true ↔ _
  rw [decide_eq_true_iff]
  exact Iff.rfl

theorem compare_neg (first second : ℚ) : compare (-first) (-second) = compare second first := by
  simp only [LinearOrder.compare_eq_compareOfLessAndEq, compareOfLessAndEq, neg_lt_neg_iff, neg_inj,
    eq_comm]

/-- Finite doubles compare like the rational numbers that they are. -/
theorem compare_parts (finite : left.isFinite = true) (finite' : right.isFinite = true) :
    UnpackedFloat.compare (parts left) (parts right) =
      some (compare (exactValue left) (exactValue right)) := by
  rcases zero_or_finite finite with ⟨sign, zero⟩ | ⟨sign, significand, exponent, positive, found⟩ <;>
    rcases zero_or_finite finite' with
      ⟨sign', zero'⟩ | ⟨sign', significand', exponent', positive', found'⟩
  · rw [zero, zero', exactValue_of_zero zero, exactValue_of_zero zero', compare_eq_iff_eq.mpr rfl]
    rfl
  · have size : (0 : ℚ) < significand' * 2 ^ exponent' := by positivity
    rw [zero, found', exactValue_of_zero zero]
    cases sign' with
    | positive =>
        rw [exactValue_of_positive found', compare_lt_iff_lt.mpr size]
        rfl
    | negative =>
        rw [exactValue_of_negative found', compare_gt_iff_gt.mpr (neg_neg_of_pos size)]
        rfl
  · have size : (0 : ℚ) < significand * 2 ^ exponent := by positivity
    rw [zero', found, exactValue_of_zero zero']
    cases sign with
    | positive =>
        rw [exactValue_of_positive found, compare_gt_iff_gt.mpr size]
        rfl
    | negative =>
        rw [exactValue_of_negative found, compare_lt_iff_lt.mpr (neg_neg_of_pos size)]
        rfl
  · have canonical := found ▸ canonical_parts left
    have canonical' := found' ▸ canonical_parts right
    have size : (0 : ℚ) < significand * 2 ^ exponent := by positivity
    have size' : (0 : ℚ) < significand' * 2 ^ exponent' := by positivity
    rw [found, found']
    cases sign with
    | positive =>
        cases sign' with
        | positive =>
            rw [exactValue_of_positive found, exactValue_of_positive found',
              ← compare_size canonical canonical']
            rfl
        | negative =>
            rw [exactValue_of_positive found, exactValue_of_negative found',
              compare_gt_iff_gt.mpr (by linarith)]
            rfl
    | negative =>
        cases sign' with
        | positive =>
            rw [exactValue_of_negative found, exactValue_of_positive found',
              compare_lt_iff_lt.mpr (by linarith)]
            rfl
        | negative =>
            rw [exactValue_of_negative found, exactValue_of_negative found', compare_neg,
              Std.OrientedOrd.eq_swap, ← compare_size canonical canonical']
            rfl

/-- Finite doubles are equal if they are the same rational number. -/
theorem beq_iff_exactValue (finite : left.isFinite = true) (finite' : right.isFinite = true) :
    (left == right) = true ↔ exactValue left = exactValue right := by
  rw [beq_parts, UnpackedFloat.beq, compare_parts finite finite', beq_iff_eq, Option.some_inj,
    compare_eq_iff_eq]

theorem lt_iff_exactValue (finite : left.isFinite = true) (finite' : right.isFinite = true) :
    left < right ↔ exactValue left < exactValue right := by
  rw [lt_iff_parts, UnpackedFloat.lt, compare_parts finite finite', beq_iff_eq,
    Option.some_inj, compare_lt_iff_lt]

theorem le_iff_exactValue (finite : left.isFinite = true) (finite' : right.isFinite = true) :
    left ≤ right ↔ exactValue left ≤ exactValue right := by
  rw [le_iff_parts, UnpackedFloat.le, compare_parts finite finite', Option.any_some,
    Std.LawfulBCmp.isLE_iff_le]

theorem finite_abs (finite : left.isFinite = true) :
    left.abs.isFinite = true ∧ exactValue left.abs = |exactValue left| := by
  rcases zero_or_finite finite with ⟨sign, zero⟩ | ⟨sign, significand, exponent, positive, found⟩
  · have turned : (parts left).abs = .zero .positive := by
      rw [zero]
      rfl
    have size : parts left.abs = .zero .positive :=
      (parts_ofParts (turned ▸ trivial)).trans turned
    exact ⟨finite_of_zero size, by rw [exactValue_of_zero size, exactValue_of_zero zero, abs_zero]⟩
  · have canonical := canonical_parts left
    rw [found] at canonical
    have turned : (parts left).abs = .finite .positive significand exponent positive := by
      rw [found]
      rfl
    have size : parts left.abs = .finite .positive significand exponent positive :=
      (parts_ofParts (turned ▸ canonical)).trans turned
    exact ⟨finite_of_finite size, by rw [exactValue_of_positive size, abs_exactValue found]⟩

/-- A double is smaller in size than a positive one if its value is. -/
theorem abs_lt_iff {significand : Nat} {exponent : Int} {positive : 0 < significand}
    (finite : left.isFinite = true)
    (found : parts right = .finite .positive significand exponent positive) :
    left.abs < right ↔ |exactValue left| < exactValue right := by
  rw [lt_iff_exactValue (finite_abs finite).1 (finite_of_finite found), (finite_abs finite).2]

end Comparing

/-! ## Whole numbers -/

section Whole

variable {number : Float} {whole : ℤ} (finite : number.isFinite = true)

/-- A size is a whole number if the digits behind the point are zeros. -/
theorem size_eq_iff (significand size : Nat) (exponent : Int) :
    (significand : ℚ) * 2 ^ exponent = size ↔
      significand * 2 ^ exponent.toNat = size * 2 ^ (-exponent).toNat := by
  have places : (exponent.toNat : Int) = exponent + (-exponent).toNat := by omega
  have powers : (2 : ℚ) ^ exponent.toNat = 2 ^ exponent * 2 ^ (-exponent).toNat := by
    rw [← zpow_natCast, places, zpow_add₀ (by norm_num), zpow_natCast]
  rw [← Nat.cast_inj (R := ℚ)]
  push_cast
  rw [powers, ← mul_assoc, mul_left_inj' (by positivity)]

/-- A double is an integer if it has the sign and the size of the integer. -/
theorem exactValue_eq_iff {sign : Sign} {significand : Nat} {exponent : Int}
    {positive : 0 < significand}
    (found : parts number = .finite sign significand exponent positive) :
    exactValue number = whole ↔
      ∃ size : Nat, whole = sign.apply size ∧ (significand : ℚ) * 2 ^ exponent = size := by
  constructor
  · intro same
    have size := abs_exactValue found
    rw [same] at size
    refine ⟨whole.natAbs, ?_, ?_⟩
    · have signs := exactValue_pos_iff found
      rw [same, Int.cast_pos] at signs
      cases sign <;> simp at signs <;> simp only [Sign.apply] <;> omega
    · rw [← size, Nat.cast_natAbs, Int.cast_abs]
  · rintro ⟨size, rfl, same⟩
    rw [exactValue_of_finite found]
    cases sign <;> simp [Sign.apply, same]

include finite

/-- A double is whole if it is an integer. -/
theorem isWhole_iff : isWhole number = true ↔ ∃ whole : ℤ, exactValue number = whole := by
  rcases zero_or_finite finite with ⟨sign, zero⟩ | ⟨sign, significand, exponent, positive, found⟩
  · rw [exactValue_of_zero zero, isWhole, zero]
    exact iff_of_true rfl ⟨0, Int.cast_zero.symm⟩
  · have integral : (∃ whole : ℤ, exactValue number = whole) ↔
        ∃ size : Nat, significand * 2 ^ exponent.toNat = size * 2 ^ (-exponent).toNat := by
      simp only [exactValue_eq_iff found, size_eq_iff]
      constructor
      · rintro ⟨whole, size, -, same⟩
        exact ⟨size, same⟩
      · rintro ⟨size, same⟩
        exact ⟨_, size, rfl, same⟩
    rw [integral, isWhole, found]
    simp only [Bool.or_eq_true, decide_eq_true_eq, beq_iff_eq, Nat.one_shiftLeft]
    by_cases up : 0 ≤ exponent
    · have none : (-exponent).toNat = 0 := by omega
      rw [none, Nat.pow_zero]
      exact iff_of_true (.inl up) ⟨_, (Nat.mul_one _).symm⟩
    · have none : exponent.toNat = 0 := by omega
      rw [none, Nat.pow_zero, Nat.mul_one, or_iff_right up, ← Nat.dvd_iff_mod_eq_zero]
      exact exists_congr fun size => by rw [Nat.mul_comm]

/-- Dropping the fraction leaves a whole number as it is. -/
theorem truncated_of_whole (same : exactValue number = whole) : truncated number = whole := by
  rcases zero_or_finite finite with ⟨sign, zero⟩ | ⟨sign, significand, exponent, positive, found⟩
  · rw [exactValue_of_zero zero] at same
    rw [truncated, zero]
    exact_mod_cast same
  · obtain ⟨size, rfl, digits⟩ := (exactValue_eq_iff found).mp same
    rw [size_eq_iff] at digits
    rw [truncated, found, UnpackedFloat.toInt, roundToInt_eq, Nat.shiftLeft_eq,
      Nat.shiftRight_eq_div_pow, digits, Nat.mul_div_cancel _ (Nat.two_pow_pos _)]

end Whole

end Number
end PropertyBinding
