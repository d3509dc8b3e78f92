import Mathlib
import PropertyBinding.Proofs.PlainNumber

namespace PropertyBinding
namespace Number

open Float.Model UnpackedFloat

/-!
# Narrow numbers in the wider format

Every single-precision number is a double.  Its significand, shifted to the
place where the wider format wants it, loses nothing, and shifting it back
drops zeros only.  So a single-precision number that is widened and narrowed
again is itself, bit by bit.
-/

/-! ## Shifted significands -/

theorem shiftLeft_pos {significand : Nat} (positive : 0 < significand) (places : Nat) :
    0 < significand <<< places := by
  rw [Nat.shiftLeft_eq]
  exact Nat.mul_pos positive (Nat.two_pow_pos places)

theorem log2_shiftLeft {significand : Nat} (positive : 0 < significand) (places : Nat) :
    (significand <<< places).log2 = significand.log2 + places := by
  induction places with
  | zero => rfl
  | succ places step =>
      rw [Nat.shiftLeft_succ, Nat.log2_two_mul (Nat.ne_of_gt (shiftLeft_pos positive places)), step,
        Nat.add_assoc]

/-- A shift moves the leading digit of the significand and leaves the number where it is. -/
theorem totalExponent_shiftLeft {significand : Nat} (positive : 0 < significand) (places : Nat)
    (exponent : Int) :
    totalExponent (significand <<< places) (exponent - places) =
      totalExponent significand exponent := by
  simp only [totalExponent, log2_shiftLeft positive]
  omega

/-- Shifting zeros out of a significand leaves no residual bits. -/
theorem shiftRight_shiftLeft (significand places : Nat) :
    (⟨significand <<< places, false, false⟩ : ExtendedMantissa) >>> places =
      ⟨significand, false, false⟩ := by
  change Nat.repeat ExtendedMantissa.shiftRightOne places _ = _
  induction places generalizing significand with
  | zero => rfl
  | succ places step =>
      have once := step (significand <<< 1)
      rw [← Nat.shiftLeft_add, Nat.add_comm] at once
      rw [Nat.repeat, once]
      simp [ExtendedMantissa.shiftRightOne, Nat.shiftLeft_eq]

/-! ## Rounding that loses nothing -/

section Rounding

variable {format : Format} (sign : Sign) {significand : Nat} {exponent target : Int}

/-- A significand that the format has room for is not shifted. -/
theorem shiftToTargetExponent_aimed
    (aimed : format.targetExponent (totalExponent significand exponent) = exponent) :
    shiftToTargetExponent format significand exponent .exact =
      (⟨significand, false, false⟩, exponent) := by
  simp only [shiftToTargetExponent, shiftToExponent, aimed, Int.sub_self,
    ExtendedMantissa.ofMantissaAndAccuracy]
  exact congrArg (Prod.mk _) (Int.add_zero exponent)

/-- Rounding drops the zeros behind a significand that the format has room for. -/
theorem roundWithAccuracy_shiftLeft (positive : 0 < significand) (places : Nat)
    (aimed : format.targetExponent (totalExponent significand exponent) = exponent) :
    roundWithAccuracy format sign (significand <<< places) (exponent - places) .exact =
      .finite sign significand exponent positive := by
  have distance : (exponent - (exponent - places)).toNat = places := by omega
  have back : exponent - places + (places : Int) = exponent := by omega
  have first : shiftToTargetExponent format (significand <<< places) (exponent - places) .exact =
      (⟨significand, false, false⟩, exponent) := by
    simp only [shiftToTargetExponent, shiftToExponent, totalExponent_shiftLeft positive, aimed,
      distance, back, ExtendedMantissa.ofMantissaAndAccuracy, shiftRight_shiftLeft]
  simp only [roundWithAccuracy, first, ExtendedMantissa.roundedMantissa, ExtendedMantissa.accuracy,
    Accuracy.roundToNearestEven, shiftToTargetExponent_aimed aimed]
  exact dif_neg (Nat.ne_of_gt positive)

/-- A significand with too few digits gets zeros behind them. -/
theorem round_of_low (positive : 0 < significand)
    (aimed : format.targetExponent (totalExponent significand exponent) = target)
    (low : target ≤ exponent) :
    UnpackedFloat.round format sign significand exponent =
      .finite sign (significand <<< (exponent - target).toNat) target
        (shiftLeft_pos positive _) := by
  have reached : exponent - ((exponent - target).toNat : Int) = target := by omega
  have kept := totalExponent_shiftLeft positive (exponent - target).toNat exponent
  rw [reached] at kept
  have rounded := roundWithAccuracy_shiftLeft sign
    (shiftLeft_pos positive (exponent - target).toNat) 0
    ((congrArg format.targetExponent kept).trans aimed)
  rw [Int.ofNat_zero, Int.sub_zero] at rounded
  simp only [UnpackedFloat.round, decreaseExponent, aimed, reached]
  exact rounded

/-- The zeros behind a significand are dropped again. -/
theorem round_shiftLeft (positive : 0 < significand) (places : Nat)
    (aimed : format.targetExponent (totalExponent significand exponent) = exponent) :
    UnpackedFloat.round format sign (significand <<< places) (exponent - places) =
      .finite sign significand exponent positive := by
  have none : (exponent - places - exponent).toNat = 0 := by omega
  have rounded := roundWithAccuracy_shiftLeft sign positive places aimed
  simp only [UnpackedFloat.round, decreaseExponent, totalExponent_shiftLeft positive, aimed, none]
  rw [Int.ofNat_zero, Int.sub_zero]
  exact rounded

end Rounding

/-! ## Parts that a format has room for -/

/-- The exponent as a format stores it: it is never negative, and zero is kept for low numbers. -/
def storedExponent (format : Format) (exponent : Int) : Int :=
  exponent + format.exponentBias + format.mantissaBitsWithoutImplicit

theorem storedExponent_minExponent (format : Format) :
    storedExponent format format.minExponent = 1 := by
  have positive := Nat.two_pow_pos (format.exponentBits - 1)
  have power : (2 : Int) ^ (format.exponentBits - 1) = (2 ^ (format.exponentBits - 1) : Nat) := by
    rw [Int.natCast_pow]
    rfl
  simp only [storedExponent, Format.minExponent, Format.exponentBias, Format.mantissaBits, power]
  omega

/--
Parts as a format keeps them: the significand has all the digits of the format,
or the exponent is the lowest, and the exponent is not too high.
-/
def Canonical (format : Format) : UnpackedFloat → Prop
  | .finite _ significand exponent _ =>
      significand.log2 ≤ format.mantissaBitsWithoutImplicit ∧
      1 ≤ storedExponent format exponent ∧
      (significand.log2 < format.mantissaBitsWithoutImplicit → storedExponent format exponent = 1) ∧
      storedExponent format exponent + 1 < (2 ^ format.exponentBits : Nat)
  | _ => True

theorem Canonical.aimed {format : Format} {sign : Sign} {significand : Nat} {exponent : Int}
    {positive : 0 < significand}
    (canonical : Canonical format (.finite sign significand exponent positive)) :
    format.targetExponent (totalExponent significand exponent) = exponent := by
  rcases canonical with ⟨digits, reach, lowest, -⟩
  have least := storedExponent_minExponent format
  simp only [Format.targetExponent, totalExponent, Format.mantissaBits]
  simp only [storedExponent] at least reach lowest
  by_cases full : significand.log2 < format.mantissaBitsWithoutImplicit
  · have known := lowest full
    omega
  · omega

/-- The leading digit, which is not stored, and the digits behind it make up the significand. -/
theorem toNat_append_ofNat {digits significand : Nat} (low : 2 ^ digits ≤ significand)
    (high : significand < 2 ^ (digits + 1)) :
    (1#1 ++ BitVec.ofNat digits significand).toNat = significand := by
  have rest : significand % 2 ^ digits = significand - 2 ^ digits := by
    rw [Nat.mod_eq_sub_mod low]
    exact Nat.mod_eq_of_lt (by rw [Nat.pow_succ] at high; omega)
  rw [BitVec.toNat_append, ← Nat.shiftLeft_add_eq_or_of_lt (BitVec.isLt _), BitVec.toNat_ofNat,
    BitVec.toNat_ofNat, rest, Nat.shiftLeft_eq]
  omega

/-- A significand with all its digits is found again. -/
theorem unpack_packComponents_full {format : Format} (sign : Sign) {stored significand : Nat}
    (positive : 0 < significand) (low : 0 < stored) (high : stored + 1 < 2 ^ format.exponentBits)
    (full : significand.log2 = format.mantissaBitsWithoutImplicit) :
    UnpackedFloat.unpack format (packComponents format sign (.ofNat _ stored) (.ofNat _ significand)) =
      .finite sign significand (stored - (format.exponentBias + format.mantissaBitsWithoutImplicit))
        positive := by
  have kept : (BitVec.ofNat format.exponentBits stored).toNat = stored := by
    rw [BitVec.toNat_ofNat, Nat.mod_eq_of_lt (by omega)]
  have notTop : BitVec.ofNat format.exponentBits stored ≠ -1#_ := by
    intro impossible
    have top := congrArg BitVec.toNat impossible
    rw [kept, BitVec.neg_one_eq_allOnes, BitVec.toNat_allOnes] at top
    omega
  have notLow : BitVec.ofNat format.exponentBits stored ≠ 0#_ := by
    intro impossible
    have none := congrArg BitVec.toNat impossible
    rw [kept, BitVec.toNat_ofNat, Nat.zero_mod] at none
    omega
  have size := (Nat.log2_eq_iff (Nat.ne_of_gt positive)).mp full
  simp only [UnpackedFloat.unpack, unpackExponent_packComponents, unpackMantissa_packComponents,
    unpackSign_packComponents, Sign.ofBitVec_toBitVec, notTop, notLow, if_false,
    toNat_append_ofNat size.1 size.2, kept]

/-- A significand with fewer digits is found again at the lowest exponent. -/
theorem unpack_packComponents_short {format : Format} (sign : Sign) {significand : Nat}
    (positive : 0 < significand) (short : significand.log2 < format.mantissaBitsWithoutImplicit) :
    UnpackedFloat.unpack format (packComponents format sign 0#_ (.ofNat _ significand)) =
      .finite sign significand (1 - (format.exponentBias + format.mantissaBitsWithoutImplicit))
        positive := by
  have wide := Nat.ne_of_gt format.he
  have kept : (BitVec.ofNat format.mantissaBitsWithoutImplicit significand).toNat = significand := by
    rw [BitVec.toNat_ofNat]
    exact Nat.mod_eq_of_lt ((Nat.log2_lt (Nat.ne_of_gt positive)).mp short)
  have notNone : BitVec.ofNat format.mantissaBitsWithoutImplicit significand ≠ 0#_ := by
    intro impossible
    have none := congrArg BitVec.toNat impossible
    rw [kept, BitVec.toNat_ofNat, Nat.zero_mod] at none
    omega
  have notTop : 0#(format.exponentBits) ≠ -1#_ := by
    intro impossible
    simp [wide] at impossible
  simp only [UnpackedFloat.unpack, unpackExponent_packComponents, unpackMantissa_packComponents,
    unpackSign_packComponents, Sign.ofBitVec_toBitVec, notTop, if_false, if_true, notNone, dif_neg,
    not_false_eq_true, kept, BitVec.toNat_ofNat, Nat.zero_mod]
  congr 1
  omega

/-- What a format has room for is found again after it was packed. -/
theorem unpack_pack {format : Format} {value : UnpackedFloat} (canonical : Canonical format value) :
    UnpackedFloat.unpack format (UnpackedFloat.pack format value) = value := by
  cases value with
  | notANumber => exact unpack_packedNaN
  | infinity sign => simp [UnpackedFloat.pack, UnpackedFloat.unpack, packedInfinity]
  | zero sign => exact unpack_packedZero
  | finite sign significand exponent positive =>
      rcases canonical with ⟨digits, reach, lowest, room⟩
      have stored : ((storedExponent format exponent).toNat : Int) =
          storedExponent format exponent := Int.toNat_of_nonneg (by omega)
      have inRange : ¬ 2 ^ format.exponentBits ≤ (storedExponent format exponent).toNat + 1 := by
        omega
      unfold UnpackedFloat.pack
      simp only
      rw [← storedExponent, if_neg inRange]
      by_cases full : significand.log2 + 1 = format.mantissaBits
      · have all : significand.log2 = format.mantissaBitsWithoutImplicit := by
          simp only [Format.mantissaBits] at full
          omega
        rw [if_pos full, unpack_packComponents_full sign positive (by omega) (by omega) all, stored]
        simp only [storedExponent]
        congr 1
        omega
      · have short : significand.log2 < format.mantissaBitsWithoutImplicit := by
          simp only [Format.mantissaBits] at full
          omega
        have least := lowest short
        rw [if_neg full, unpack_packComponents_short sign positive short]
        simp only [storedExponent] at least
        congr 1
        omega

/-- What a pattern stands for is as a format keeps it. -/
theorem canonical_unpack {format : Format} (wide : 1 < format.exponentBits)
    (bits : BitVec format.numBits) : Canonical format (UnpackedFloat.unpack format bits) := by
  have room : 2 ^ 2 ≤ 2 ^ format.exponentBits := Nat.pow_le_pow_right (by decide) wide
  have high := (unpackExponent bits).isLt
  have small := (unpackMantissa bits).isLt
  unfold UnpackedFloat.unpack
  dsimp only
  by_cases special : unpackExponent bits = -1#_
  · rw [if_pos special]
    by_cases empty : unpackMantissa bits = 0#_
    · rw [if_pos empty]
      trivial
    · rw [if_neg empty]
      trivial
  · rw [if_neg special]
    by_cases low : unpackExponent bits = 0#_
    · rw [if_pos low]
      by_cases empty : unpackMantissa bits = 0#_
      · rw [dif_pos empty]
        trivial
      · rw [dif_neg empty]
        have some' : (unpackMantissa bits).toNat ≠ 0 := fun none =>
          empty (BitVec.eq_of_toNat_eq none)
        have short := (Nat.log2_lt some').mpr small
        have least : storedExponent format (((unpackExponent bits).toNat : Int) -
            (format.exponentBias + format.mantissaBitsWithoutImplicit) + 1) = 1 := by
          rw [low, BitVec.toNat_ofNat, Nat.zero_mod]
          simp only [storedExponent]
          omega
        refine ⟨Nat.le_of_lt short, Int.le_of_eq least.symm, fun _ => least, ?_⟩
        rw [least]
        omega
    · rw [if_neg low]
      have digits : (1#1 ++ unpackMantissa bits).toNat =
          2 ^ format.mantissaBitsWithoutImplicit + (unpackMantissa bits).toNat := by
        rw [BitVec.toNat_append, ← Nat.shiftLeft_add_eq_or_of_lt small, Nat.shiftLeft_eq]
        simp
      have full : (1#1 ++ unpackMantissa bits).toNat.log2 = format.mantissaBitsWithoutImplicit := by
        rw [Nat.log2_eq_iff (by omega), digits, Nat.pow_succ]
        omega
      have stored : storedExponent format (((unpackExponent bits).toNat : Int) -
          (format.exponentBias + format.mantissaBitsWithoutImplicit)) =
          (unpackExponent bits).toNat := by
        simp only [storedExponent]
        omega
      have notLow : (unpackExponent bits).toNat ≠ 0 := fun none =>
        low (BitVec.eq_of_toNat_eq none)
      have notTop : (unpackExponent bits).toNat ≠ 2 ^ format.exponentBits - 1 := fun top =>
        special (BitVec.eq_of_toNat_eq (by
          rw [top, BitVec.neg_one_eq_allOnes, BitVec.toNat_allOnes]))
      refine ⟨Nat.le_of_eq full, ?_, fun short => absurd full (Nat.ne_of_lt short), ?_⟩
      · rw [stored]
        omega
      · rw [stored]
        omega

/-! ## There and back -/

/-- The parts of a single-precision number are those of a double, shifted. -/
theorem canonical_shiftLeft {sign : Sign} {significand : Nat} {exponent : Int}
    {positive : 0 < significand}
    (canonical : Canonical .binary32 (.finite sign significand exponent positive)) :
    ∃ places : Nat, Canonical .binary64
      (.finite sign (significand <<< places) (exponent - places) (shiftLeft_pos positive places)) := by
  rcases canonical with ⟨digits, reach, -, room⟩
  refine ⟨52 - significand.log2, ?_⟩
  simp only [storedExponent, Format.exponentBias] at digits reach room
  simp only [Canonical, storedExponent, Format.exponentBias, log2_shiftLeft positive]
  omega

theorem parts_ofParts {value : UnpackedFloat} (canonical : Canonical .binary64 value) :
    parts (ofParts value) = value :=
  unpack_pack canonical

theorem unpack_ofModel {value : UnpackedFloat} (canonical : Canonical .binary32 value) :
    (Float32.ofModel (.pack value)).toModel.unpack = value :=
  unpack_pack canonical

/-- A single-precision number that is widened and narrowed is itself. -/
theorem narrow_widen (number : Float32) : narrow (widen number) = number := by
  have canonical : Canonical .binary32 number.toModel.unpack := canonical_unpack (by decide) _
  apply eq_of_singleParts
  unfold widen
  cases found : number.toModel.unpack with
  | finite sign significand exponent positive =>
      rw [found] at canonical
      rcases canonical_shiftLeft canonical with ⟨places, fits⟩
      have aimed := fits.aimed
      rw [totalExponent_shiftLeft positive] at aimed
      have distance : (exponent - (exponent - (places : Int))).toNat = places := by omega
      have widened := round_of_low sign positive aimed (by omega)
      simp only [distance] at widened
      have narrowed := round_shiftLeft sign positive places canonical.aimed
      simp only [narrow, widened, parts_ofParts fits, narrowed]
      exact unpack_ofModel canonical
  | notANumber => rfl
  | infinity sign => cases sign <;> rfl
  | zero sign => cases sign <;> rfl

end Number
end PropertyBinding
