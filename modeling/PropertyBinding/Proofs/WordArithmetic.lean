import Mathlib
import PropertyBinding.Proofs.WholeNumber
import PropertyBinding.Script.Operator

namespace PropertyBinding

/-!
# Arithmetic on words

The double of a word is whole, and so is the double of a sum, a difference or a product of
words as long as it is in range.  What an operation on doubles leaves is either the double
of the exact result, or a negative zero, or something no word stands for.  The operators
on words give the word that stands for the result of the operation on doubles, and that
result itself where there is none.

Division makes one exception.  Products and remainders look whether a zero would be
negative, quotients do not: zero divided by a negative word is the word zero.
-/

namespace Number

open Float.Model UnpackedFloat

/-! ## Doubles that are whole -/

theorem parts_add {left right : Float}
    (canonical : Canonical .binary64 (UnpackedFloat.add .binary64 (parts left) (parts right))) :
    parts (left + right) = UnpackedFloat.add .binary64 (parts left) (parts right) :=
  parts_ofParts canonical

theorem parts_sub {left right : Float}
    (canonical : Canonical .binary64 (UnpackedFloat.sub .binary64 (parts left) (parts right))) :
    parts (left - right) = UnpackedFloat.sub .binary64 (parts left) (parts right) :=
  parts_ofParts canonical

theorem parts_mul {left right : Float}
    (canonical : Canonical .binary64 (UnpackedFloat.mul .binary64 (parts left) (parts right))) :
    parts (left * right) = UnpackedFloat.mul .binary64 (parts left) (parts right) :=
  parts_ofParts canonical

theorem parts_div {left right : Float}
    (canonical : Canonical .binary64 (UnpackedFloat.div .binary64 (parts left) (parts right))) :
    parts (left / right) = UnpackedFloat.div .binary64 (parts left) (parts right) :=
  parts_ofParts canonical

/-- A 64-bit word that needs no more than 53 digits becomes the double of its number. -/
theorem parts_toUInt64_toFloat {size : Nat} (small : size < 2 ^ 53) :
    parts size.toUInt64.toFloat = wholeParts size := by
  have small' : (size : Int).natAbs < 2 ^ 53 := small
  have kept : size.toUInt64.toNat = size := by
    rw [Nat.toUInt64_eq, UInt64.toNat_ofNat']
    exact Nat.mod_eq_of_lt (by omega)
  have rounded : UnpackedFloat.ofUInt64 .binary64 size.toUInt64 = wholeParts size := by
    have whole := normalize_whole small' 0
    rw [Int.pow_zero, Int.mul_one] at whole
    rw [UnpackedFloat.ofUInt64, UnpackedFloat.ofNat, UnpackedFloat.ofInt, kept]
    exact whole
  exact (parts_ofParts (rounded ▸ canonical_whole small')).trans rounded

theorem parts_ofNat {size : Nat} (small : size < 2 ^ 53) :
    parts (Float.ofNat size) = wholeParts size := by
  have small' : (size : Int).natAbs < 2 ^ 53 := small
  have one : parts (Float.ofBits 0x3FF0000000000000) = wholeParts 1 := by
    have same : Float.ofBits 0x3FF0000000000000 = ofParts (wholeParts 1) := by decide +kernel
    rw [same, parts_ofParts (canonical_whole (by decide))]
  have unfolded : Float.ofNat size = size.toUInt64.toFloat * Float.ofBits 0x3FF0000000000000 :=
    dif_pos ⟨small, by decide⟩
  have product :
      UnpackedFloat.mul .binary64 (wholeParts size) (wholeParts 1) = wholeParts size := by
    by_cases none : (size : Int) = 0
    · rw [none]
      rfl
    · have whole := mul_whole small' (by decide) none Int.one_ne_zero (by rwa [Int.mul_one])
      rwa [Int.mul_one] at whole
  rw [unfolded, parts_mul] <;> rw [parts_toUInt64_toFloat small, one, product]
  exact canonical_whole small'

theorem parts_neg {number : Float} (canonical : Canonical .binary64 (parts number).neg) :
    parts (-number) = (parts number).neg :=
  parts_ofParts canonical

theorem neg_wholeParts {value : Int} (nonzero : value ≠ 0) :
    (wholeParts value).neg = wholeParts (-value) := by
  rw [wholeParts_of_ne nonzero, wholeParts_of_ne (Int.neg_ne_zero.mpr nonzero), signOf_neg nonzero]
  simp only [Int.natAbs_neg]
  rfl

theorem parts_ofInt {value : Int} (small : value.natAbs < 2 ^ 53) :
    parts (Float.ofInt value) = wholeParts value := by
  cases value with
  | ofNat size => exact parts_ofNat small
  | negSucc size =>
      have turned : (parts (Float.ofNat size.succ)).neg = wholeParts (Int.negSucc size) := by
        have small' : size.succ < 2 ^ 53 := small
        rw [parts_ofNat small', neg_wholeParts (Int.natCast_ne_zero.mpr (Nat.succ_ne_zero size))]
        rfl
      exact (parts_neg (turned ▸ canonical_whole small)).trans turned

theorem natAbs_toInt_lt (word : Int32) : word.toInt.natAbs < 2 ^ 32 := by
  have low := word.le_toInt
  have high := word.toInt_lt
  omega

theorem parts_ofInt32 (word : Int32) : parts (ofInt32 word) = wholeParts word.toInt :=
  parts_ofInt (Nat.lt_trans (natAbs_toInt_lt word) (by decide))

/-- Numbers with all 53 digits fit into a double, unless they are too large or too small. -/
theorem canonical_full {sign : Sign} {significand : Nat} {exponent : Int}
    {positive : 0 < significand} (full : significand.log2 = 52) (low : -1021 ≤ exponent)
    (high : exponent ≤ 900) :
    Canonical .binary64 (.finite sign significand exponent positive) := by
  simp only [Canonical, full, storedExponent, Format.exponentBias]
  omega

/-! ## Words that stand for doubles -/

/-- No integer outside the range of words is a word. -/
theorem wordOfInt?_of_large {value : Int} (large : 2 ^ 53 ≤ value.natAbs) :
    wordOfInt? value = none := by
  have least : Int32.minValue.toInt = -2147483648 := rfl
  have greatest : Int32.maxValue.toInt = 2147483647 := rfl
  exact if_neg (by omega)

/-- An integer is a word if its word is that integer. -/
theorem wordOfInt?_toInt (word : Int32) : wordOfInt? word.toInt = some word := by
  rw [wordOfInt?, if_pos ⟨word.minValue_le_toInt, word.toInt_le⟩, Int32.ofInt_toInt]

theorem bind_wordOfInt?_iff {result? : Option Int} {word : Int32} :
    result?.bind wordOfInt? = some word ↔ result? = some word.toInt := by
  constructor
  · intro found
    obtain ⟨value, same, known⟩ := Option.bind_eq_some_iff.mp found
    rw [same, toInt_of_wordOfInt? known]
  · intro same
    rw [same]
    exact wordOfInt?_toInt word

/-- The integer a finite number is cut to has the digits of the significand before the point. -/
theorem roundToInt_eq (sign : Sign) (significand : Nat) (exponent : Int) :
    roundToInt sign significand exponent =
      sign.apply (significand <<< exponent.toNat >>> (-exponent).toNat : Nat) := by
  have back : (0 - (exponent - (exponent.toNat : Int))).toNat = (-exponent).toNat := by omega
  simp only [roundToInt, decreaseExponent, shiftToExponent, Int.sub_zero]
  rw [mantissa_shiftRight, mantissa_ofMantissaAndAccuracy, back]

/-- The double of an integer is cut to that integer. -/
theorem toInt_wholeParts {value : Int} (small : value.natAbs < 2 ^ 53) :
    (wholeParts value).toInt 0 0 = value := by
  by_cases none : value = 0
  · rw [none]
    rfl
  · have digits := log2_lt_of_lt (Int.natAbs_pos.mpr none) small
    have stays : (value.natAbs.log2 - 52 : Int).toNat = 0 := by omega
    have back : (-(value.natAbs.log2 - 52 : Int)).toNat = 52 - value.natAbs.log2 := by omega
    rw [wholeParts_of_ne none, UnpackedFloat.toInt, roundToInt_eq, stays, back, Nat.shiftLeft_zero,
      fullSignificand, Nat.shiftLeft_shiftRight, apply_signOf]

section Words

variable {number : Float}

/-- The word for the double of an integer is the one that equals the integer. -/
theorem word?_of_whole {value : Int} (small : value.natAbs < 2 ^ 53)
    (found : parts number = wholeParts value) : word? number = wordOfInt? value := by
  have cut : truncated number = value := by
    rw [truncated, found, toInt_wholeParts small]
  have whole : isWhole number = true ∧ isNegativeZero number = false := by
    by_cases none : value = 0
    · rw [none] at found
      simp [isWhole, isNegativeZero, found, wholeParts_zero]
    · have digits := log2_lt_of_lt (Int.natAbs_pos.mpr none) small
      have even : fullSignificand value.natAbs % (1 <<< (52 - value.natAbs.log2)) = 0 := by
        rw [fullSignificand, Nat.shiftLeft_eq, Nat.shiftLeft_eq, Nat.one_mul, Nat.mul_mod_left]
      simp [isWhole, isNegativeZero, found, wholeParts_of_ne none, even]
  rw [word?, whole.1, whole.2, cut]
  rfl

theorem word?_of_infinity {sign : Sign} (found : parts number = .infinity sign) :
    word? number = none := by
  simp [word?, isWhole, found]

theorem word?_of_notANumber (found : parts number = .notANumber) : word? number = none := by
  simp [word?, isWhole, found]

theorem word?_of_negativeZero (found : parts number = .zero .negative) : word? number = none := by
  simp [word?, isNegativeZero, found]

/-- No word stands for a number that has a fraction. -/
theorem word?_of_fraction {sign : Sign} {significand : Nat} {exponent : Int}
    {positive : 0 < significand}
    (found : parts number = .finite sign significand exponent positive) (low : exponent < 0)
    (uneven : ¬ 2 ^ (-exponent).toNat ∣ significand) : word? number = none := by
  have fraction : isWhole number = false := by
    simp only [isWhole, found, Nat.shiftLeft_eq, Nat.one_mul]
    simp [low, Nat.dvd_iff_mod_eq_zero.not.mp uneven]
  simp [word?, fraction]

/-- No word stands for a number with more digits than words have. -/
theorem word?_of_high {sign : Sign} {significand : Nat} {exponent : Int}
    {positive : 0 < significand}
    (found : parts number = .finite sign significand exponent positive) (high : 0 ≤ exponent)
    (full : significand.log2 = 52) : word? number = none := by
  have large := (Nat.log2_eq_iff (Nat.ne_of_gt positive)).mp full
  have more : significand ≤ significand <<< exponent.toNat := by
    rw [Nat.shiftLeft_eq]
    exact Nat.le_mul_of_pos_right _ (Nat.two_pow_pos _)
  have stays : (-exponent).toNat = 0 := by omega
  have none : wordOfInt? (truncated number) = none := by
    rw [truncated, found, UnpackedFloat.toInt, roundToInt_eq, stays, Nat.shiftRight_zero]
    refine if_neg ?_
    have least : Int32.minValue.toInt = -2147483648 := rfl
    have greatest : Int32.maxValue.toInt = 2147483647 := rfl
    cases sign <;> simp only [Sign.apply] <;> omega
  rw [word?, none, ite_self]

end Words

theorem natAbs_apply (sign : Sign) (size : ℕ) : (sign.apply size).natAbs = size := by
  cases sign <;> simp [Sign.apply]

/-- What has zeros behind its digits only is rounded to the double of the integer. -/
theorem parts_round_whole (sign : Sign) {size : ℕ} (positive : 0 < size) (small : size < 2 ^ 53)
    (places : ℕ) :
    parts (ofParts (UnpackedFloat.round .binary64 sign (size <<< places) (-places))) =
      wholeParts (sign.apply size) := by
  have nonzero : sign.apply size ≠ 0 := by
    rw [← Int.natAbs_pos, natAbs_apply]
    exact positive
  have signs : signOf (sign.apply size) = sign := by
    cases sign <;> simp only [signOf, Sign.apply] <;> grind
  have same : wholeParts (sign.apply size) =
      .finite sign (fullSignificand size) (size.log2 - 52) (fullSignificand_pos positive) := by
    rw [wholeParts_of_ne nonzero]
    simp only [signs, natAbs_apply]
  rw [round_whole sign positive small, ← same]
  exact parts_ofParts (canonical_whole (by rw [natAbs_apply]; exact small))

/-! ## Remainders -/

/-- What remains has the sign of the dividend. -/
theorem signOf_tmod {left right : Int} (uneven : left.tmod right ≠ 0) :
    signOf (left.tmod right) = signOf left := by
  by_cases below : left < 0
  · have low := Int.tmod_nonneg right (Int.neg_nonneg_of_nonpos (Int.le_of_lt below))
    rw [Int.neg_tmod] at low
    rw [signOf_of_neg below, signOf_of_neg (by omega)]
  · have high := Int.tmod_nonneg right (Int.not_lt.mp below)
    rw [signOf, if_neg (by omega), signOf, if_neg below]

/--
The remainder of a number that is whole, whatever its size, is that of its digits before the
point, with the sign of the number.
-/
theorem parts_remainder_of_size {dividend divisor : Float} {sign : Sign} {significand size : Nat}
    {exponent right : Int} {positive : 0 < significand}
    (found : parts dividend = .finite sign significand exponent positive)
    (found' : parts divisor = wholeParts right)
    (aligned : significand * 2 ^ exponent.toNat = size * 2 ^ (-exponent).toNat)
    (nonzero : right ≠ 0) (small : right.natAbs < 2 ^ 53) :
    parts (remainder dividend divisor) =
      if size % right.natAbs = 0 then .zero sign
      else wholeParts (sign.apply (size % right.natAbs : Nat)) := by
  have positive' := Int.natAbs_pos.mpr nonzero
  have digits := log2_lt_of_lt positive' small
  rw [wholeParts_of_ne nonzero] at found'
  generalize scale_eq : min exponent (right.natAbs.log2 - 52 : Int) = scale
  have places : scale = -((-scale).toNat : Int) := by omega
  -- Down at the smaller exponent both operands have equally many zeros behind them.
  have shifted : significand <<< (exponent - scale).toNat = size <<< (-scale).toNat := by
    have distance : (exponent - scale).toNat + (-exponent).toNat =
        exponent.toNat + (-scale).toNat := by omega
    apply Nat.eq_of_mul_eq_mul_right (Nat.two_pow_pos (-exponent).toNat)
    rw [Nat.shiftLeft_eq, Nat.shiftLeft_eq, Nat.mul_assoc, ← Nat.pow_add, distance, Nat.pow_add,
      ← Nat.mul_assoc, aligned]
    ring
  have rest : significand <<< (exponent - scale).toNat %
      fullSignificand right.natAbs <<< ((right.natAbs.log2 - 52 : Int) - scale).toNat =
      (size % right.natAbs) <<< (-scale).toNat := by
    rw [shifted, fullSignificand_shiftLeft positive' small (by omega)]
    simp only [Nat.shiftLeft_eq, Nat.mul_mod_mul_right]
  have smaller := Nat.mod_lt size positive'
  simp only [remainder, found, found', scale_eq, rest]
  by_cases even : size % right.natAbs = 0
  · rw [if_pos even, if_pos (by rw [even, Nat.zero_shiftLeft])]
    exact parts_ofParts trivial
  · have left_over := Nat.pos_of_ne_zero even
    have rounded := parts_round_whole sign left_over (by omega) (-scale).toNat
    rw [← places] at rounded
    rw [if_neg even, if_neg (Nat.ne_of_gt (shiftLeft_pos left_over _))]
    exact rounded

section Remainder

variable {dividend divisor : Float} {left right : Int}
  (left_small : left.natAbs < 2 ^ 53) (right_small : right.natAbs < 2 ^ 53)
  (found : parts dividend = wholeParts left) (found' : parts divisor = wholeParts right)
include found found'

theorem remainder_by_zero (none : right = 0) :
    parts (remainder dividend divisor) = .notANumber := by
  rw [none, wholeParts_zero] at found'
  by_cases first : left = 0
  · rw [first, wholeParts_zero] at found
    simp only [remainder, found, found']
    exact parts_ofParts trivial
  · rw [wholeParts_of_ne first] at found
    simp only [remainder, found, found']
    exact parts_ofParts trivial

include left_small right_small

/-- The remainder is the exact one; if it is a zero, that has the sign of the dividend. -/
theorem parts_remainder (nonzero : right ≠ 0) :
    parts (remainder dividend divisor) =
      if left.tmod right = 0 then .zero (signOf left) else wholeParts (left.tmod right) := by
  by_cases none : left = 0
  · subst none
    rw [wholeParts_zero] at found
    rw [wholeParts_of_ne nonzero] at found'
    simp only [Int.zero_tmod, if_true]
    simp only [remainder, found, found']
    rfl
  · have positive := Int.natAbs_pos.mpr none
    have digits := log2_lt_of_lt positive left_small
    rw [wholeParts_of_ne none] at found
    have low : (left.natAbs.log2 - 52 : Int).toNat = 0 := by omega
    have places : (-(left.natAbs.log2 - 52 : Int)).toNat = 52 - left.natAbs.log2 := by omega
    have aligned : fullSignificand left.natAbs * 2 ^ (left.natAbs.log2 - 52 : Int).toNat =
        left.natAbs * 2 ^ (-(left.natAbs.log2 - 52 : Int)).toNat := by
      rw [low, places, fullSignificand, Nat.shiftLeft_eq, Nat.pow_zero, Nat.mul_one]
    have rest := parts_remainder_of_size found found' aligned nonzero right_small
    rw [← Int.natAbs_tmod] at rest
    rw [rest]
    by_cases even : left.tmod right = 0
    · rw [if_pos even, if_pos (by rw [even, Int.natAbs_zero])]
    · rw [if_neg even, if_neg (Int.natAbs_ne_zero.mpr even), ← signOf_tmod even, apply_signOf]

end Remainder

/-! ## What an operation comes to -/

/--
The result of an operation on doubles, beside the exact result where that is an integer: the
double of the exact result, or a negative zero, or a number that no word stands for, and then
the exact result is no word either.
-/
inductive Outcome (number : Float) : Option Int → Bool → Prop where
  | whole {value : Int} (small : value.natAbs < 2 ^ 53) (found : parts number = wholeParts value) :
      Outcome number (some value) false
  | negativeZero (result? : Option Int) (found : parts number = .zero .negative) :
      Outcome number result? true
  | wordless {result? : Option Int} (outside : result?.bind wordOfInt? = none)
      (found : word? number = none) (other : isNegativeZero number = false) :
      Outcome number result? false

section Outcomes

variable {number : Float} {result? : Option Int} {negative : Bool}

theorem isNegativeZero_of_whole {value : Int} (found : parts number = wholeParts value) :
    isNegativeZero number = false := by
  by_cases none : value = 0
  · simp [isNegativeZero, found, none, wholeParts_zero]
  · simp [isNegativeZero, found, wholeParts_of_ne none]

/-- A zero comes to the word zero, unless it has the sign. -/
theorem Outcome.zero {turned : Prop} [Decidable turned]
    (found : parts number = .zero (if turned then .negative else .positive)) :
    Outcome number (some 0) (decide turned) := by
  by_cases sign : turned
  · rw [if_pos sign] at found
    rw [decide_eq_true sign]
    exact .negativeZero _ found
  · rw [if_neg sign] at found
    rw [decide_eq_false sign]
    exact .whole (by decide) found

theorem Outcome.isNegativeZero (outcome : Outcome number result? negative) :
    Number.isNegativeZero number = negative := by
  cases outcome with
  | whole small found => exact isNegativeZero_of_whole found
  | negativeZero _ found => simp [Number.isNegativeZero, found]
  | wordless _ _ other => exact other

/-- The word for the outcome is the exact result, except for a negative zero. -/
theorem Outcome.word? (outcome : Outcome number result? negative) :
    Number.word? number = if negative then none else result?.bind wordOfInt? := by
  cases outcome with
  | whole small found => exact word?_of_whole small found
  | negativeZero _ found => exact word?_of_negativeZero found
  | wordless outside found _ => exact found.trans outside.symm

end Outcomes

end Number

namespace Script

open Number
open Float.Model hiding ofInt32
open UnpackedFloat

/-- The operators of arithmetic. -/
def arithmeticOperators : List BinaryOp :=
  [.add, .subtract, .multiply, .divide, .remainder]

/-- The exact result of an operator of arithmetic on two integers, where that is an integer. -/
def exactResult? (operator : BinaryOp) (left right : Int) : Option Int :=
  match operator with
  | .add => some (left + right)
  | .subtract => some (left - right)
  | .multiply => some (left * right)
  | .divide => if right ≠ 0 ∧ right ∣ left then some (left / right) else none
  | .remainder => if right ≠ 0 then some (left.tmod right) else none
  | _ => none

/--
Whether the result as a double is a negative zero: a zero product with a negative factor, a
zero quotient with a negative divisor, a zero remainder with a negative dividend.
-/
def turnsZero (operator : BinaryOp) (left right : Int) : Bool :=
  match operator with
  | .multiply => decide (left * right = 0 ∧ (left < 0 ∨ right < 0))
  | .divide => decide (left = 0 ∧ right < 0)
  | .remainder => decide (right ≠ 0 ∧ left.tmod right = 0 ∧ left < 0)
  | _ => false

/-! ## The operators one by one -/

theorem outcome_add (left right : Int32) :
    Outcome (ofInt32 left + ofInt32 right) (exactResult? .add left.toInt right.toInt) false := by
  have small := natAbs_toInt_lt left
  have small' := natAbs_toInt_lt right
  have left_small : left.toInt.natAbs < 2 ^ 53 := by omega
  have right_small : right.toInt.natAbs < 2 ^ 53 := by omega
  have sum := add_whole left_small right_small (by omega)
  refine .whole (by omega) ?_
  rw [parts_add] <;> rw [parts_ofInt32, parts_ofInt32, sum]
  exact canonical_whole (by omega)

theorem outcome_subtract (left right : Int32) :
    Outcome (ofInt32 left - ofInt32 right) (exactResult? .subtract left.toInt right.toInt)
      false := by
  have small := natAbs_toInt_lt left
  have small' := natAbs_toInt_lt right
  have left_small : left.toInt.natAbs < 2 ^ 53 := by omega
  have right_small : right.toInt.natAbs < 2 ^ 53 := by omega
  have difference := sub_whole left_small right_small (by omega)
  refine .whole (by omega) ?_
  rw [parts_sub] <;> rw [parts_ofInt32, parts_ofInt32, difference]
  exact canonical_whole (by omega)

theorem outcome_multiply (left right : Int32) :
    Outcome (ofInt32 left * ofInt32 right) (exactResult? .multiply left.toInt right.toInt)
      (turnsZero .multiply left.toInt right.toInt) := by
  have small : left.toInt.natAbs < 2 ^ 53 := Nat.lt_trans (natAbs_toInt_lt left) (by decide)
  have small' : right.toInt.natAbs < 2 ^ 53 := Nat.lt_trans (natAbs_toInt_lt right) (by decide)
  have product : _ → parts (ofInt32 left * ofInt32 right) = _ := parts_mul
  rw [parts_ofInt32, parts_ofInt32] at product
  simp only [exactResult?, turnsZero]
  generalize left.toInt = x at small product
  generalize right.toInt = y at small' product
  by_cases none : x * y = 0
  · have factor := Int.mul_eq_zero.mp none
    rw [mul_none factor] at product
    have zero := product trivial
    rw [signOf_mul_of_zero factor] at zero
    simp only [none, true_and]
    exact .zero zero
  · rw [decide_eq_false (fun both => none both.1)]
    have nonzero : x ≠ 0 := fun zero => none (by rw [zero, Int.zero_mul])
    have nonzero' : y ≠ 0 := fun zero => none (by rw [zero, Int.mul_zero])
    by_cases large : (x * y).natAbs < 2 ^ 53
    · rw [mul_whole small small' nonzero nonzero' large] at product
      exact .whole large (product (canonical_whole large))
    · obtain ⟨sign, significand, exponent, positive, result, full, low, high⟩ :=
        mul_high small small' (Nat.not_lt.mp large)
      rw [result] at product
      have found := product (canonical_full full (by omega) (by omega))
      refine .wordless ?_ (word?_of_high found low full) (by simp [isNegativeZero, found])
      exact wordOfInt?_of_large (Nat.not_lt.mp large)

theorem outcome_divide (left right : Int32) :
    Outcome (ofInt32 left / ofInt32 right) (exactResult? .divide left.toInt right.toInt)
      (turnsZero .divide left.toInt right.toInt) := by
  have small := natAbs_toInt_lt left
  have small' := natAbs_toInt_lt right
  have quotient : _ → parts (ofInt32 left / ofInt32 right) = _ := parts_div
  rw [parts_ofInt32, parts_ofInt32] at quotient
  simp only [exactResult?, turnsZero]
  generalize left.toInt = x at small quotient
  generalize right.toInt = y at small' quotient
  by_cases none : y = 0
  · rw [if_neg (fun both => both.1 none), decide_eq_false (by omega)]
    rw [none, wholeParts_zero] at quotient
    by_cases none' : x = 0
    · rw [none', wholeParts_zero] at quotient
      have found : parts (ofInt32 left / ofInt32 right) = .notANumber := quotient trivial
      exact .wordless rfl (word?_of_notANumber found) (by simp [isNegativeZero, found])
    · rw [wholeParts_of_ne none'] at quotient
      have found : parts (ofInt32 left / ofInt32 right) = .infinity (signOf x / .positive) :=
        quotient trivial
      exact .wordless rfl (word?_of_infinity found) (by simp [isNegativeZero, found])
  · by_cases none' : x = 0
    · subst none'
      rw [div_none none] at quotient
      have zero := quotient trivial
      rw [if_pos ⟨none, Int.dvd_zero y⟩, Int.zero_ediv]
      simp only [true_and]
      exact .zero zero
    · rw [decide_eq_false (fun both => none' both.1)]
      by_cases even : y ∣ x
      · rw [if_pos ⟨none, even⟩]
        obtain ⟨z, rfl⟩ := even
        have nonzero : z ≠ 0 := fun zero => none' (by rw [zero, Int.mul_zero])
        have fewer : z.natAbs ≤ (y * z).natAbs := by
          rw [Int.natAbs_mul]
          exact Nat.le_mul_of_pos_left _ (Int.natAbs_pos.mpr none)
        rw [div_whole (by omega) (by omega) nonzero none] at quotient
        rw [Int.mul_ediv_cancel_left z none]
        exact .whole (by omega) (quotient (canonical_whole (by omega)))
      · rw [if_neg (fun both => even both.2)]
        obtain ⟨sign, significand, exponent, positive, result, full, low, high, uneven⟩ :=
          div_uneven small small' none even
        rw [result] at quotient
        have found := quotient (canonical_full full low (by omega))
        exact .wordless rfl (word?_of_fraction found high uneven) (by simp [isNegativeZero, found])

theorem outcome_remainder (left right : Int32) :
    Outcome (remainder (ofInt32 left) (ofInt32 right))
      (exactResult? .remainder left.toInt right.toInt)
      (turnsZero .remainder left.toInt right.toInt) := by
  have small : left.toInt.natAbs < 2 ^ 53 := Nat.lt_trans (natAbs_toInt_lt left) (by decide)
  have small' : right.toInt.natAbs < 2 ^ 53 := Nat.lt_trans (natAbs_toInt_lt right) (by decide)
  simp only [exactResult?, turnsZero]
  by_cases none : right.toInt = 0
  · have found := remainder_by_zero (parts_ofInt32 left) (parts_ofInt32 right) none
    rw [if_neg (fun nonzero => nonzero none), decide_eq_false (fun all => all.1 none)]
    exact .wordless rfl (word?_of_notANumber found) (by simp [isNegativeZero, found])
  · have found := parts_remainder small small' (parts_ofInt32 left) (parts_ofInt32 right) none
    have size := Int.natAbs_tmod left.toInt right.toInt
    have smaller := Nat.mod_lt left.toInt.natAbs (Int.natAbs_pos.mpr none)
    rw [if_pos none]
    by_cases even : left.toInt.tmod right.toInt = 0
    · rw [if_pos even] at found
      simp only [even, none, ne_eq, not_false_eq_true, true_and]
      exact .zero found
    · rw [if_neg even] at found
      rw [decide_eq_false (fun all => even all.2.1)]
      exact .whole (by omega) found

/-- What an operator of arithmetic comes to on the doubles of two words. -/
theorem outcome_doubleArithmetic {operator : BinaryOp} (known : operator ∈ arithmeticOperators)
    (left right : Int32) :
    Outcome (doubleArithmetic operator (ofInt32 left) (ofInt32 right))
      (exactResult? operator left.toInt right.toInt)
      (turnsZero operator left.toInt right.toInt) := by
  simp only [arithmeticOperators, List.mem_cons, List.not_mem_nil, or_false] at known
  rcases known with rfl | rfl | rfl | rfl | rfl
  · exact outcome_add left right
  · exact outcome_subtract left right
  · exact outcome_multiply left right
  · exact outcome_divide left right
  · exact outcome_remainder left right

/-! ## Words as far as they go -/

section Agreement

variable {operator : BinaryOp} {left right : Int32}

/-- The word path leaves out the sign of a zero quotient. -/
def missesSign (operator : BinaryOp) (left right : Int) : Bool :=
  decide (operator = .divide ∧ left = 0 ∧ right < 0)

/-- A word that the word path gives is the exact result, and not in place of a negative zero. -/
theorem exact_of_wordArithmetic? {word : Int32}
    (found : wordArithmetic? operator left right = some word)
    (signed : missesSign operator left.toInt right.toInt = false) :
    turnsZero operator left.toInt right.toInt = false ∧
      (exactResult? operator left.toInt right.toInt).bind wordOfInt? = some word := by
  cases operator with
  | add => exact ⟨rfl, found⟩
  | subtract => exact ⟨rfl, found⟩
  | multiply =>
      simp only [wordArithmetic?] at found
      split at found
      · next known =>
        refine ⟨decide_eq_false ?_, found⟩
        rintro ⟨none, below⟩
        rcases known with some' | both
        · exact some' none
        · omega
      · cases found
  | divide =>
      simp only [missesSign, true_and, decide_eq_false_iff_not] at signed
      simp only [wordArithmetic?] at found
      split at found
      · next known =>
        have even := Int.dvd_of_tmod_eq_zero known.2
        refine ⟨decide_eq_false signed, ?_⟩
        rw [exactResult?, if_pos ⟨known.1, even⟩, Option.bind_some, ← Int.tdiv_eq_ediv_of_dvd even]
        exact found
      · cases found
  | remainder =>
      simp only [wordArithmetic?] at found
      split at found
      · next known =>
        refine ⟨decide_eq_false (fun all => Int.not_lt.mpr known.1 all.2.2), ?_⟩
        rw [exactResult?, if_pos known.2]
        exact found
      · cases found
  | _ => cases found

theorem numberValue_eq_int_iff {number : Float} {word : Int32} :
    numberValue number = .int word ↔ Number.word? number = some word := by
  unfold numberValue
  cases Number.word? number with
  | none => simp
  | some other => simp

/-- Without a word of its own, the word path leaves the result to the doubles. -/
theorem arithmetic_words (operator : BinaryOp) (left right : Int32) :
    arithmetic operator (.int left) (.int right) =
      match wordArithmetic? operator left right with
      | some word => .int word
      | none => numberValue (doubleArithmetic operator (ofInt32 left) (ofInt32 right)) := by
  simp only [arithmetic]
  cases wordArithmetic? operator left right <;> rfl

/--
An operator of arithmetic on two words gives what the operation on their doubles gives: the
word that is the exact result, if there is one and zero does not turn negative, and the double
otherwise.  A quotient of zero by a negative word is the exception: it is the word zero, while
the doubles have the negative zero for it.
-/
theorem word_arithmetic_exact_but_for_zero_quotients (known : operator ∈ arithmeticOperators)
    (left right : Int32) :
    let number := doubleArithmetic operator (ofInt32 left) (ofInt32 right)
    Number.isNegativeZero number = turnsZero operator left.toInt right.toInt ∧
    (∀ word, numberValue number = .int word ↔
      exactResult? operator left.toInt right.toInt = some word.toInt ∧
        turnsZero operator left.toInt right.toInt = false) ∧
    ((∃ word, numberValue number = .int word) ∨ numberValue number = .double number) ∧
    arithmetic operator (.int left) (.int right) =
      if missesSign operator left.toInt right.toInt then .int 0 else numberValue number := by
  intro number
  have outcome := outcome_doubleArithmetic known left right
  have word := outcome.word?
  refine ⟨outcome.isNegativeZero, ?_, ?_, ?_⟩
  · intro word'
    rw [numberValue_eq_int_iff, word, ← bind_wordOfInt?_iff]
    cases turnsZero operator left.toInt right.toInt <;> simp
  · unfold numberValue
    cases Number.word? number with
    | none => exact .inr rfl
    | some word' => exact .inl ⟨word', rfl⟩
  · rw [arithmetic_words]
    cases signed : missesSign operator left.toInt right.toInt with
    | true =>
        obtain ⟨rfl, none, below⟩ := of_decide_eq_true signed
        have zero : wordArithmetic? .divide left right = some 0 := by
          simp only [wordArithmetic?, none, Int.zero_tmod, Int.zero_tdiv]
          rw [if_pos ⟨Int.ne_of_lt below, trivial⟩]
          rfl
        rw [zero]
        rfl
    | false =>
        cases found : wordArithmetic? operator left right with
        | none => rfl
        | some word' =>
            obtain ⟨unturned, exact'⟩ := exact_of_wordArithmetic? found signed
            rw [unturned, if_neg Bool.false_ne_true, exact'] at word
            exact (numberValue_eq_int_iff.mpr word).symm

/-- Zero by minus three is the word zero, though the doubles divide to the negative zero. -/
theorem zero_by_minus_three :
    arithmetic .divide (.int 0) (.int (-3)) = .int 0 ∧
      Number.isNegativeZero (doubleArithmetic .divide (ofInt32 0) (ofInt32 (-3))) = true ∧
      numberValue (doubleArithmetic .divide (ofInt32 0) (ofInt32 (-3))) ≠ .int 0 := by
  have known : BinaryOp.divide ∈ arithmeticOperators := by decide
  have all := word_arithmetic_exact_but_for_zero_quotients known 0 (-3)
  have turns : turnsZero .divide (0 : Int32).toInt (-3 : Int32).toInt = true := by decide
  refine ⟨all.2.2.2, all.1.trans turns, fun same => ?_⟩
  have unturned := ((all.2.1 0).mp same).2
  rw [turns] at unturned
  cases unturned

end Agreement

end Script
end PropertyBinding
