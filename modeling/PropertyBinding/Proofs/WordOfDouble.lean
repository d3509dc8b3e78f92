import PropertyBinding.Proofs.NumberText

namespace PropertyBinding
namespace Number

open Float.Model UnpackedFloat

/-!
# The word of a double

The word of a double is found in steps: the fraction is dropped, the remainder modulo the
number of words is taken, and what is too large for a word is brought down by the number of
words.  None of these steps rounds.  Whole numbers of any size have a remainder with no more
digits than the divisor, and sums and differences of such numbers are doubles.  So the word is
the one that is congruent to the double with its fraction dropped, which is what two's
complement makes of it.
-/

/-- The integer next to a rational number on the side of zero. -/
def towardZero (value : ℚ) : ℤ :=
  if value < 0 then ⌈value⌉ else ⌊value⌋

/-- Whether a double is a rational number exactly. -/
structure Exactly (number : Float) (value : ℚ) : Prop where
  finite : number.isFinite = true
  same : exactValue number = value

/-! ## Doubles of integers -/

section Whole

variable {number : Float} {value : ℤ}

theorem exactly_of_whole (small : value.natAbs < 2 ^ 53) (found : parts number = wholeParts value) :
    Exactly number value := by
  by_cases none : value = 0
  · rw [none, wholeParts_zero] at found
    exact ⟨finite_of_zero found, by rw [exactValue_of_zero found, none, Int.cast_zero]⟩
  · have digits := log2_lt_of_lt (Int.natAbs_pos.mpr none) small
    rw [wholeParts_of_ne none] at found
    refine ⟨finite_of_finite found, (exactValue_eq_iff found).mpr ⟨value.natAbs, ?_, ?_⟩⟩
    · exact (apply_signOf value).symm
    · have low : (value.natAbs.log2 - 52 : ℤ).toNat = 0 := by omega
      have places : (-(value.natAbs.log2 - 52 : ℤ)).toNat = 52 - value.natAbs.log2 := by omega
      rw [size_eq_iff, low, places, fullSignificand, Nat.shiftLeft_eq, Nat.pow_zero, Nat.mul_one]

/-- Only zero has several doubles. -/
theorem Exactly.parts (exactly : Exactly number value) (nonzero : value ≠ 0)
    (small : value.natAbs < 2 ^ 53) : Number.parts number = wholeParts value := by
  have found := parts_ofInt small
  have other := exactly_of_whole small found
  have equal := (beq_iff_exactValue exactly.finite other.finite).mpr
    (exactly.same.trans other.same.symm)
  rcases parts_of_beq (beq_parts ▸ equal) with known | ⟨-, sign, zero⟩
  · exact known.trans found
  · rw [found, wholeParts_of_ne nonzero] at zero
    cases zero

end Whole

section Sums

variable {left right : Float} {first second : ℤ} (exactly : Exactly left first)
  (exactly' : Exactly right second) (nonzero : first ≠ 0) (nonzero' : second ≠ 0)
  (small : first.natAbs < 2 ^ 53) (small' : second.natAbs < 2 ^ 53)
include exactly exactly' nonzero nonzero' small small'

theorem Exactly.add (small_sum : (first + second).natAbs < 2 ^ 53) :
    Exactly (left + right) (first + second : ℤ) := by
  have sum := add_whole small small' small_sum
  rw [← exactly.parts nonzero small, ← exactly'.parts nonzero' small'] at sum
  exact exactly_of_whole small_sum ((parts_add (sum ▸ canonical_whole small_sum)).trans sum)

theorem Exactly.sub (small_difference : (first - second).natAbs < 2 ^ 53) :
    Exactly (left - right) (first - second : ℤ) := by
  have difference := sub_whole small small' small_difference
  rw [← exactly.parts nonzero small, ← exactly'.parts nonzero' small'] at difference
  exact exactly_of_whole small_difference
    ((parts_sub (difference ▸ canonical_whole small_difference)).trans difference)

end Sums

/-! ## The steps -/

section Steps

variable {number : Float}

/-- The digits before the point are the integer next to the number on the side of zero. -/
theorem truncated_eq (finite : number.isFinite = true) :
    truncated number = towardZero (exactValue number) := by
  rcases zero_or_finite finite with ⟨sign, zero⟩ | ⟨sign, significand, exponent, positive, found⟩
  · rw [truncated, zero, exactValue_of_zero zero, towardZero, if_neg (lt_irrefl 0), Int.floor_zero]
    rfl
  · have places : (exponent.toNat : ℤ) = exponent + (-exponent).toNat := by omega
    have quotient : (significand : ℚ) * 2 ^ exponent =
        ((significand <<< exponent.toNat : ℕ) : ℤ) / ((2 ^ (-exponent).toNat : ℕ) : ℚ) := by
      rw [eq_div_iff (by positivity), Nat.shiftLeft_eq]
      push_cast
      rw [← zpow_natCast (2 : ℚ) exponent.toNat, places, zpow_add₀ (by norm_num), zpow_natCast]
      ring
    have floor : ⌊(significand : ℚ) * 2 ^ exponent⌋ =
        (significand <<< exponent.toNat >>> (-exponent).toNat : ℕ) := by
      rw [quotient, Rat.floor_intCast_div_natCast, Nat.shiftRight_eq_div_pow]
      rfl
    have size : (0 : ℚ) < significand * 2 ^ exponent := by positivity
    rw [truncated, found, UnpackedFloat.toInt, roundToInt_eq, towardZero]
    cases sign with
    | positive =>
        rw [exactValue_of_positive found, if_neg size.not_gt, floor]
        rfl
    | negative =>
        rw [exactValue_of_negative found, if_pos (neg_neg_of_pos size), Int.ceil_neg, floor]
        rfl

/-- Dropping the fraction leaves a whole number, of any size, or a zero. -/
theorem exactly_trunc (finite : number.isFinite = true) :
    Exactly (trunc number) (towardZero (exactValue number)) := by
  rw [← truncated_eq finite]
  rcases zero_or_finite finite with ⟨sign, zero⟩ | ⟨sign, significand, exponent, positive, found⟩
  · have same : trunc number = number := by rw [trunc, zero]
    rw [same, truncated, zero]
    exact ⟨finite, exactValue_of_zero zero⟩
  · have small := (found ▸ canonical_parts number).bounds.1
    simp only [trunc, found, truncated, UnpackedFloat.toInt, roundToInt_eq]
    by_cases high : 0 ≤ exponent
    · have stays : (-exponent).toNat = 0 := by omega
      rw [if_pos high, stays, Nat.shiftRight_zero]
      refine ⟨finite, (exactValue_eq_iff found).mpr ⟨_, rfl, ?_⟩⟩
      rw [size_eq_iff, stays, Nat.shiftLeft_eq, Nat.pow_zero, Nat.mul_one]
    · have stays : exponent.toNat = 0 := by omega
      rw [if_neg high, stays, Nat.shiftLeft_zero]
      generalize size_eq : significand >>> (-exponent).toNat = size
      have less : size ≤ significand := by
        rw [← size_eq, Nat.shiftRight_eq_div_pow]
        exact Nat.div_le_self _ _
      by_cases none : size = 0
      · have zero : Number.parts (ofParts (.zero sign)) = .zero sign := parts_ofParts trivial
        rw [if_pos none, none]
        refine ⟨finite_of_zero zero, (exactValue_of_zero zero).trans ?_⟩
        cases sign <;> simp [Sign.apply]
      · have rounded := parts_round_whole sign (Nat.pos_of_ne_zero none) (by omega) 0
        rw [Nat.shiftLeft_zero, Int.ofNat_zero, Int.neg_zero] at rounded
        rw [if_neg none]
        exact exactly_of_whole (by rw [natAbs_apply]; omega) rounded

/-- The remainder of a whole number of any size is exact, and has the sign of the number. -/
theorem exactly_remainder {dividend divisor : Float} {whole : ℤ} {modulus : ℕ}
    (exactly : Exactly dividend whole) (exactly' : Exactly divisor modulus)
    (positive : 0 < modulus) (small : modulus < 2 ^ 53) :
    Exactly (remainder dividend divisor) (whole.tmod modulus : ℤ) := by
  have nonzero : (modulus : ℤ) ≠ 0 := by omega
  have found' := exactly'.parts nonzero small
  rcases zero_or_finite exactly.finite with
    ⟨sign, zero⟩ | ⟨sign, significand, exponent, positive', found⟩
  · have none : whole = 0 := by
      have same := exactly.same
      rw [exactValue_of_zero zero] at same
      exact_mod_cast same.symm
    have same : remainder dividend divisor = dividend := by
      rw [wholeParts_of_ne nonzero] at found'
      simp only [remainder, zero, found']
    rw [same, none, Int.zero_tmod]
    exact none ▸ exactly
  · obtain ⟨size, rfl, digits⟩ := (exactValue_eq_iff found).mp exactly.same
    rw [size_eq_iff] at digits
    have rest := parts_remainder_of_size found found' digits nonzero small
    have turned : (sign.apply size).tmod modulus = sign.apply (size % modulus : ℕ) := by
      cases sign <;> simp only [Sign.apply, Int.neg_tmod, Int.ofNat_tmod]
    rw [turned]
    split at rest
    · next even =>
      rw [Int.natAbs_natCast] at even
      refine ⟨finite_of_zero rest, (exactValue_of_zero rest).trans ?_⟩
      cases sign <;> simp [Sign.apply, even]
    · next uneven =>
      rw [Int.natAbs_natCast] at rest
      have smaller := Nat.mod_lt size positive
      exact exactly_of_whole (by rw [natAbs_apply]; omega) rest

/-- The remainder that is not negative is the one of the division that rounds down. -/
theorem emod_eq_tmod_ite (whole : ℤ) {modulus : ℤ} (positive : 0 < modulus) :
    whole % modulus =
      if whole.tmod modulus < 0 then whole.tmod modulus + modulus else whole.tmod modulus := by
  have low := Int.tmod_lt_of_pos whole positive
  have high : -modulus < whole.tmod modulus := by
    have turned := Int.tmod_lt_of_pos (-whole) positive
    rw [Int.neg_tmod] at turned
    omega
  have parts := Int.tmod_add_mul_tdiv whole modulus
  split
  · rw [Int.emod_eq_iff (by omega)]
    refine ⟨by omega, by omega, ?_⟩
    exact ⟨1 - whole.tdiv modulus, by linarith⟩
  · rw [Int.emod_eq_iff (by omega)]
    refine ⟨by omega, by omega, ?_⟩
    exact ⟨-whole.tdiv modulus, by linarith⟩

end Steps

/-! ## The word -/

theorem exactly_ofNat {size : ℕ} (small : size < 2 ^ 53) : Exactly (Float.ofNat size) (size : ℤ) :=
  exactly_of_whole small (parts_ofNat small)

theorem exactly_zero : Exactly 0 (0 : ℤ) :=
  exactly_ofNat (by decide : 0 < 2 ^ 53)

theorem exactly_wordCount : Exactly wordCount (4294967296 : ℤ) :=
  exactly_ofNat (by decide : 4294967296 < 2 ^ 53)

theorem exactly_wordLimit : Exactly wordLimit (2147483648 : ℤ) :=
  exactly_ofNat (by decide : 2147483648 < 2 ^ 53)

/--
Whether each number that is met on the way to the word of a double is exact, and each
comparison comes out as it does for the exact numbers.
-/
structure Unrounded (number : Float) (whole : ℤ) : Prop where
  truncated : Exactly (trunc number) whole
  remainder : Exactly (remainder (trunc number) wordCount) (whole.tmod (2 ^ 32) : ℤ)
  negative : Number.remainder (trunc number) wordCount < 0 ↔ whole.tmod (2 ^ 32) < 0
  raised : whole.tmod (2 ^ 32) < 0 →
    Exactly (Number.remainder (trunc number) wordCount + wordCount.abs)
      (whole.tmod (2 ^ 32) + 2 ^ 32 : ℤ)
  rest : Exactly (euclideanRemainder (trunc number) wordCount) (whole % 2 ^ 32 : ℤ)
  high : wordLimit ≤ euclideanRemainder (trunc number) wordCount ↔ 2 ^ 31 ≤ whole % 2 ^ 32
  lowered : 2 ^ 31 ≤ whole % 2 ^ 32 →
    Exactly (euclideanRemainder (trunc number) wordCount - wordCount) (whole % 2 ^ 32 - 2 ^ 32 : ℤ)

theorem unrounded {number : Float} (finite : number.isFinite = true) :
    Unrounded number (towardZero (exactValue number)) := by
  have truncated := exactly_trunc finite
  generalize towardZero (exactValue number) = whole at truncated
  have count : (2 : ℤ) ^ 32 = 4294967296 := by norm_num
  have limit : (2 : ℤ) ^ 31 = 2147483648 := by norm_num
  have remainder : Exactly (remainder (trunc number) wordCount) (whole.tmod (2 ^ 32) : ℤ) := by
    rw [count]
    exact exactly_remainder truncated exactly_wordCount (by decide) (by decide)
  have negative : Number.remainder (trunc number) wordCount < 0 ↔ whole.tmod (2 ^ 32) < 0 := by
    rw [lt_iff_exactValue remainder.finite exactly_zero.finite, remainder.same, exactly_zero.same]
    exact Int.cast_lt
  have above := Int.tmod_lt_of_pos whole (by decide : (0 : ℤ) < 2 ^ 32)
  have emod := emod_eq_tmod_ite whole (by decide : (0 : ℤ) < 2 ^ 32)
  have within := Int.emod_nonneg whole (by decide : (2 : ℤ) ^ 32 ≠ 0)
  have below := Int.emod_lt_of_pos whole (by decide : (0 : ℤ) < 2 ^ 32)
  have raised : whole.tmod (2 ^ 32) < 0 →
      Exactly (Number.remainder (trunc number) wordCount + wordCount.abs)
        (whole.tmod (2 ^ 32) + 2 ^ 32 : ℤ) := by
    intro less
    rw [if_pos less] at emod
    have size : Exactly wordCount.abs (2 ^ 32 : ℤ) := by
      refine ⟨(finite_abs exactly_wordCount.finite).1, ?_⟩
      rw [(finite_abs exactly_wordCount.finite).2, exactly_wordCount.same]
      norm_num
    have sum := remainder.add size (by omega) (by omega) (by omega) (by omega) (by omega)
    exact_mod_cast sum
  have rest : Exactly (euclideanRemainder (trunc number) wordCount) (whole % 2 ^ 32 : ℤ) := by
    rw [euclideanRemainder, emod]
    by_cases less : whole.tmod (2 ^ 32) < 0
    · rw [if_pos less, if_pos (negative.mpr less)]
      exact_mod_cast raised less
    · rw [if_neg less, if_neg (mt negative.mp less)]
      exact remainder
  refine ⟨truncated, remainder, negative, raised, rest, ?_, fun high => ?_⟩
  · rw [le_iff_exactValue exactly_wordLimit.finite rest.finite, rest.same, exactly_wordLimit.same,
      limit]
    exact Int.cast_le
  · have difference := rest.sub exactly_wordCount (by omega) (by omega) (by omega) (by omega)
      (by omega)
    rw [← count] at difference
    exact_mod_cast difference

/-- A word keeps the number that it is made of, if that is in range. -/
theorem toInt_saturated {number : Float} {value : ℤ} (exactly : Exactly number value)
    (least : -2 ^ 31 ≤ value) (most : value < 2 ^ 31) : (saturated number).toInt = value := by
  have cut := truncated_of_whole exactly.finite exactly.same
  have same : (parts number).toInt Int32.minValue.toInt Int32.maxValue.toInt = value := by
    rw [← cut]
    rcases zero_or_finite exactly.finite with ⟨sign, zero⟩ | ⟨sign, significand, exponent, _, found⟩
    · rw [truncated, zero]
      rfl
    · rw [truncated, found]
      rfl
  have low : Int32.minValue.toInt = -2147483648 := rfl
  have high : Int32.maxValue.toInt = 2147483647 := rfl
  rw [saturated, UnpackedFloat.toInt32, same]
  exact Int32.toInt_ofIntClamp (by omega) (by omega)

/-- The word of a finite double is congruent to its digits before the point. -/
theorem toInt_toInt32 {number : Float} (finite : number.isFinite = true) :
    (toInt32 number).toInt = (towardZero (exactValue number)).bmod (2 ^ 32) := by
  have steps := unrounded finite
  generalize towardZero (exactValue number) = whole at steps
  have within := Int.emod_nonneg whole (by decide : (2 : ℤ) ^ 32 ≠ 0)
  have below := Int.emod_lt_of_pos whole (by decide : (0 : ℤ) < 2 ^ 32)
  simp only [toInt32, if_pos finite]
  rw [Int.bmod_def]
  by_cases high : 2 ^ 31 ≤ whole % 2 ^ 32
  · rw [if_pos (steps.high.mpr high), if_neg (by omega)]
    exact toInt_saturated (by exact_mod_cast steps.lowered high) (by omega) (by omega)
  · rw [if_neg (mt steps.high.mp high), if_pos (by omega)]
    exact toInt_saturated steps.rest (by omega) (by omega)

/-- A word is known by what it is congruent to. -/
theorem eq_iff_bmod (word : Int32) (whole : ℤ) :
    whole.bmod (2 ^ 32) = word.toInt ↔ word.toInt ≡ whole [ZMOD 2 ^ 32] := by
  have low := word.le_toInt
  have high := word.toInt_lt
  unfold Int.ModEq
  rw [Int.bmod_def]
  push_cast
  constructor
  · intro same
    split at same <;> omega
  · intro same
    split <;> omega

/-- The words of two doubles are the same if their digits before the point are congruent. -/
theorem toInt32_congr {left right : Float} (finite : left.isFinite = true)
    (finite' : right.isFinite = true)
    (congruent : towardZero (exactValue left) ≡ towardZero (exactValue right) [ZMOD 2 ^ 32]) :
    toInt32 left = toInt32 right := by
  have known := (eq_iff_bmod (toInt32 right) _).mp (toInt_toInt32 finite').symm
  rw [← Int32.toInt_inj, toInt_toInt32 finite]
  exact (eq_iff_bmod _ _).mpr (known.trans congruent.symm)

theorem towardZero_intCast (whole : ℤ) : towardZero whole = whole := by
  rw [towardZero, Int.ceil_intCast, Int.floor_intCast, ite_self]

/--
The word of a double is its digits before the point in two's complement.  A double that is
not finite has the word zero.  A finite one has the only word that is congruent, modulo the
number of words, to the exact value of the double cut toward zero, and each number on the way
to it is exact.  So a word is the word of its own double, and integers whose difference is a
multiple of the number of words have one word.
-/
theorem words_are_twos_complement (number : Float) :
    (number.isFinite = false → toInt32 number = 0) ∧
      (number.isFinite = true →
        Unrounded number (towardZero (exactValue number)) ∧
          ∀ word : Int32, toInt32 number = word ↔
            word.toInt ≡ towardZero (exactValue number) [ZMOD 2 ^ 32]) ∧
      (∀ word : Int32, toInt32 (ofInt32 word) = word) ∧
      ∀ (other : Float) (whole turns : ℤ), number.isFinite = true → other.isFinite = true →
        exactValue number = whole → exactValue other = (whole + turns * 2 ^ 32 : ℤ) →
          toInt32 other = toInt32 number := by
  refine ⟨fun infinite => ?_, fun finite => ⟨unrounded finite, fun word => ?_⟩, fun word => ?_, ?_⟩
  · rw [toInt32, if_neg (Bool.eq_false_iff.mp infinite)]
  · rw [← Int32.toInt_inj, toInt_toInt32 finite]
    exact eq_iff_bmod word _
  · have exactly := exactly_of_whole (by have := natAbs_toInt_lt word; omega) (parts_ofInt32 word)
    rw [← Int32.toInt_inj, toInt_toInt32 exactly.finite, exactly.same, towardZero_intCast]
    exact (eq_iff_bmod word _).mpr rfl
  · intro other whole turns finite finite' same same'
    refine toInt32_congr finite' finite ?_
    rw [same, same', towardZero_intCast, towardZero_intCast]
    exact Int.modEq_iff_dvd.mpr ⟨-turns, by ring⟩

/-- Twelve billion billion and a half, below zero. -/
def farBelow : Float := -12345678901234567890.5

/-- The digits that the double does not have count for its word. -/
theorem word_of_farBelow : farBelow.isFinite = true ∧
    towardZero (exactValue farBelow) = -12345678901234567168 ∧ toInt32 farBelow = 350287872 := by
  have finite : farBelow.isFinite = true := by decide +kernel
  have cut : towardZero (exactValue farBelow) = -12345678901234567168 := by
    rw [← truncated_eq finite]
    decide +kernel
  refine ⟨finite, cut, ?_⟩
  rw [((words_are_twos_complement farBelow).2.1 finite).2, cut]
  decide

end Number
end PropertyBinding
