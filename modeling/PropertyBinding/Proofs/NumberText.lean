import Mathlib
import PropertyBinding.Proofs.DecimalReading
import PropertyBinding.Proofs.ExactValue
import PropertyBinding.Proofs.ShortestDecimal

namespace PropertyBinding
namespace Number

open Float.Model UnpackedFloat

/-!
# The text of a double

A finite double is written as a decimal in its rounding interval, so reading the text gives
the double again.  Whole numbers below the limit are written differently, as integers, and
there the text has the digits of the double itself.  But the integers that are written end at
`2 ^ 63` while the limit is far beyond: what lies between is written with the last integer,
which is read as `2 ^ 63`.
-/

/-! ## Integers as text -/

/-- An integer that is not zero is written with its sign and its digits. -/
theorem toString_int {whole : ℤ} (nonzero : whole ≠ 0) :
    toString whole =
      String.ofList (withSign (signOf whole) (Nat.toDigits 10 whole.natAbs)) := by
  rw [Int.toString_eq_repr]
  cases whole with
  | ofNat size =>
      have plus : signOf (Int.ofNat size) = .positive := if_neg (by simp)
      rw [plus]
      exact Nat.repr_eq_ofList_toDigits
  | negSucc size =>
      have minus : signOf (Int.negSucc size) = .negative := if_pos (by simp)
      rw [minus, Int.repr, Nat.repr_eq_ofList_toDigits, ← String.toList_inj]
      simp [withSign]

/-- What is written as an integer is read as a numeral without a point. -/
theorem readText?_toString {whole : ℤ} (nonzero : whole ≠ 0) :
    readText? (toString whole) =
      some (Numeral.finite (signOf whole == .negative) whole.natAbs 0).toFloat := by
  have read := readText?_whole (signOf whole) Nat.toDigits_ne_nil
    (allDigits_toDigits whole.natAbs)
  rwa [natOfDigits_toDigits, ← toString_int nonzero] at read

/-! ## The limit for integers -/

theorem exactValue_integerLimit : ∃ significand exponent positive,
    parts integerLimit = .finite .positive significand exponent positive ∧
      exactValue integerLimit = 10 ^ 21 := by
  have same : integerLimit = Float.exactlyRepresentablePowersOfTen[21] := by decide +kernel
  have found : parts integerLimit = powerParts 21 :=
    (congrArg parts same).trans (parts_exactlyRepresentablePowersOfTen 21 (by decide))
  refine ⟨_, _, _, found, ?_⟩
  rw [exactValue_of_finite found]
  exact value_powerParts (by decide)

/-- The doubles that are written as integers. -/
theorem written_whole_iff {number : Float} (finite : number.isFinite = true) :
    (isWhole number && decide (number.abs < integerLimit)) = true ↔
      ∃ whole : ℤ, exactValue number = whole ∧ |whole| < 10 ^ 21 := by
  obtain ⟨significand, exponent, positive, found, limit⟩ := exactValue_integerLimit
  rw [Bool.and_eq_true, decide_eq_true_eq, isWhole_iff finite, abs_lt_iff finite found, limit]
  constructor
  · rintro ⟨⟨whole, same⟩, small⟩
    rw [same] at small
    exact ⟨whole, same, by exact_mod_cast small⟩
  · rintro ⟨whole, same, small⟩
    refine ⟨⟨whole, same⟩, ?_⟩
    rw [same]
    exact_mod_cast small

/-- A whole number below the limit is written as an integer. -/
theorem toText_of_whole {number : Float} {whole : ℤ} (finite : number.isFinite = true)
    (same : exactValue number = whole) (small : |whole| < 10 ^ 21) :
    toText number = toString (clampWhole whole) := by
  have short := (written_whole_iff finite).mpr ⟨whole, same, small⟩
  have cut := truncated_of_whole finite same
  rcases zero_or_finite finite with ⟨sign, zero⟩ | ⟨sign, significand, exponent, positive, found⟩
  · have none : whole = 0 := by
      rw [exactValue_of_zero zero] at same
      exact_mod_cast same.symm
    rw [toText, zero, none]
    rfl
  · rw [toText, found]
    simp only [short, cut, if_true]

/-- Any other finite number is written with the shortest digits that are around it. -/
theorem toText_of_other {number : Float} {sign : Sign} {significand : Nat} {exponent : Int}
    {positive : 0 < significand}
    (found : parts number = .finite sign significand exponent positive)
    (other : (isWhole number && decide (number.abs < integerLimit)) = false) :
    toText number = String.ofList
      (withSign sign (Interval.ofBinary significand exponent).shortest.positional) := by
  rw [toText, found]
  simp only [other, Bool.false_eq_true, if_false]
  cases sign <;> rfl

/-! ## Where the integers end -/

/-- The whole numbers that are written with the first or the last 64-bit integer instead. -/
def Saturates (number : Float) : Prop :=
  ∃ whole : ℤ, exactValue number = whole ∧ 2 ^ 63 < |whole| ∧ |whole| < 10 ^ 21

theorem saturates_iff {number : Float} {whole : ℤ} (same : exactValue number = whole) :
    Saturates number ↔ 2 ^ 63 < |whole| ∧ |whole| < 10 ^ 21 := by
  constructor
  · rintro ⟨whole', same', bounds⟩
    rw [same, Int.cast_inj] at same'
    rwa [same']
  · intro bounds
    exact ⟨whole, same, bounds⟩

/-- What a number is that is read from the text of another one. -/
structure ReadBack (number back : Float) : Prop where
  finite : back.isFinite = true
  /-- The other number, if its text has its digits. -/
  kept : ¬ Saturates number → exactValue back = exactValue number
  /-- The power of two where the integers end, with the sign of the other number. -/
  lost : Saturates number → exactValue back = if exactValue number < 0 then -2 ^ 63 else 2 ^ 63

theorem ReadBack.self {number : Float} (finite : number.isFinite = true)
    (fits : ¬ Saturates number) : ReadBack number number :=
  ⟨finite, fun _ => rfl, fun lost => absurd lost fits⟩

/-- Exactly the integers that saturate are not read back. -/
theorem ReadBack.eq_iff {number back : Float} (read : ReadBack number back) :
    exactValue back = exactValue number ↔ ¬ Saturates number := by
  refine ⟨?_, read.kept⟩
  intro same saturates
  have value := read.lost saturates
  obtain ⟨whole, same', large, -⟩ := saturates
  simp only [same, same', Int.cast_lt_zero] at value
  split_ifs at value with negative
  · have lowest : whole = -2 ^ 63 := by exact_mod_cast value
    exact absurd (lowest ▸ large) (by decide)
  · have highest : whole = 2 ^ 63 := by exact_mod_cast value
    exact absurd (highest ▸ large) (by decide)

theorem clampWhole_eq (whole : ℤ) : clampWhole whole = max (-2 ^ 63) (min whole (2 ^ 63 - 1)) :=
  rfl

/-- Integers of 64 bits, and no others, are written as they are. -/
theorem clampWhole_eq_self_iff (whole : ℤ) :
    clampWhole whole = whole ↔ -2 ^ 63 ≤ whole ∧ whole < 2 ^ 63 := by
  rw [clampWhole_eq]
  omega

theorem signOf_clampWhole (whole : ℤ) : signOf (clampWhole whole) = signOf whole := by
  rw [clampWhole_eq, signOf, signOf]
  congr 1
  exact propext (by omega)

/-- The first and the last integer round to the double of their size. -/
theorem around_last {whole : ℤ} (large : 2 ^ 63 ≤ |whole|) :
    Around (2 ^ 52) 11 (decimalValue (clampWhole whole).natAbs 0) := by
  have size : (clampWhole whole).natAbs = 2 ^ 63 ∨ (clampWhole whole).natAbs = 2 ^ 63 - 1 := by
    rw [clampWhole_eq]
    rcases le_abs.mp large with above | below <;> omega
  rcases size with exact' | less
  · rw [exact']
    convert around_self (2 ^ 52) 11 using 1
    norm_num [decimalValue]
  · -- The last integer is far less than a quarter of a place below the power of two.
    have place : decimalValue (2 ^ 63 - 1) 0 / 2 ^ (11 : ℤ) = 2 ^ 52 - 1 / 2 ^ 11 := by
      norm_num [decimalValue]
    rw [less, Around, place]
    refine ⟨⟨?_, ?_⟩, fun _ => ?_⟩ <;> norm_num

theorem canonical_last (sign : Sign) :
    Canonical .binary64 (.finite sign (2 ^ 52) 11 (by decide)) :=
  canonical_full Nat.log2_two_pow (by decide) (by decide)

/-! ## Reading the text back -/

section Back

variable {number : Float} {sign : Sign} {significand : Nat} {exponent : Int}
  {positive : 0 < significand} {whole : ℤ}

/-- The sign of a double that is an integer is the sign of the integer. -/
theorem signOf_exactValue (found : parts number = .finite sign significand exponent positive)
    (same : exactValue number = whole) : whole ≠ 0 ∧ sign = signOf whole := by
  have size : (0 : ℚ) < |exactValue number| := by
    rw [abs_exactValue found]
    positivity
  have signs := exactValue_pos_iff found
  rw [same] at size signs
  rw [Int.cast_pos] at signs
  have nonzero : whole ≠ 0 := by
    rintro rfl
    simp at size
  refine ⟨nonzero, ?_⟩
  unfold signOf
  cases sign <;> simp at signs
  · exact (if_pos (by omega)).symm
  · exact (if_neg (by omega)).symm

/-- The text of an integer is read as the double that the integer is around. -/
theorem readText?_clampWhole (nonzero : whole ≠ 0)
    (canonical : Canonical .binary64 (.finite (signOf whole) significand exponent positive))
    (around : Around significand exponent (decimalValue (clampWhole whole).natAbs 0)) :
    ∃ back, readText? (toString (clampWhole whole)) = some back ∧
      parts back = .finite (signOf whole) significand exponent positive := by
  have nonzero' : clampWhole whole ≠ 0 := by
    rw [clampWhole_eq]
    omega
  have read := readText?_toString nonzero'
  rw [signOf_clampWhole] at read
  exact ⟨_, read, parts_toFloat (Int.natAbs_pos.mpr nonzero') canonical around⟩

/-- A decimal around a double is read as that double. -/
theorem readText?_shortest (found : parts number = .finite sign significand exponent positive) :
    readText? (String.ofList
      (withSign sign (Interval.ofBinary significand exponent).shortest.positional)) =
        some number := by
  have canonical := canonical_parts number
  rw [found] at canonical
  obtain ⟨some', around⟩ := shortest_spec exponent positive canonical.bounds.1
  obtain ⟨digits, power, nonzero, value, read⟩ := readsAs_positional sign _ some'
  rw [← value] at around
  rw [read, eq_of_parts ((parts_toFloat nonzero canonical around).trans found.symm)]

/-- An integer of 64 bits is read back from its text. -/
theorem readText?_within (found : parts number = .finite sign significand exponent positive)
    (same : exactValue number = whole) (within : |whole| < 2 ^ 63) :
    readText? (toString (clampWhole whole)) = some number := by
  obtain ⟨nonzero, rfl⟩ := signOf_exactValue found same
  have kept : clampWhole whole = whole := by
    rw [clampWhole_eq_self_iff]
    have := abs_lt.mp within
    omega
  have size : decimalValue (clampWhole whole).natAbs 0 = significand * 2 ^ exponent := by
    rw [kept, ← abs_exactValue found, same, decimalValue, zpow_zero, mul_one, Nat.cast_natAbs,
      Int.cast_abs]
  have canonical := canonical_parts number
  rw [found] at canonical
  obtain ⟨back, read, parts_back⟩ :=
    readText?_clampWhole nonzero canonical (size ▸ around_self significand exponent)
  rw [read, eq_of_parts (parts_back.trans found.symm)]

/-- Any larger integer is read as the power of two where the integers end. -/
theorem readText?_beyond (large : 2 ^ 63 ≤ |whole|) :
    ∃ back, readText? (toString (clampWhole whole)) = some back ∧ back.isFinite = true ∧
      exactValue back = ((signOf whole).apply (2 ^ 63) : ℤ) := by
  have nonzero : whole ≠ 0 := by
    rintro rfl
    exact absurd large (by decide)
  obtain ⟨back, read, found⟩ :=
    readText?_clampWhole nonzero (canonical_last _) (around_last large)
  refine ⟨back, read, ?_, (exactValue_eq_iff found).mpr ⟨2 ^ 63, rfl, by norm_num⟩⟩
  change (parts back).isFinite = true
  rw [found]
  rfl

/-- What is read from the text of a zero is a zero. -/
theorem readText?_toText_of_zero (zero : parts number = .zero sign) :
    ∃ back, readText? (toText number) = some back ∧ ReadBack number back := by
  have none : exactValue number = ((0 : ℤ) : ℚ) := exactValue_of_zero zero
  have none' : exactValue 0 = 0 := exactValue_of_zero (parts_ofNat (by decide))
  have digit : readText? "0" = some 0 := by decide +kernel
  have read : readText? (toText number) = some 0 := by
    rw [toText, zero]
    exact digit
  have fits : ¬ Saturates number := by
    rw [saturates_iff none]
    decide
  refine ⟨0, read, by decide +kernel, fun _ => ?_, fun lost => absurd lost fits⟩
  rw [none', none, Int.cast_zero]

/-- What is read from the text of an integer below the limit. -/
theorem readText?_toText_of_whole
    (found : parts number = .finite sign significand exponent positive)
    (finite : number.isFinite = true) (same : exactValue number = whole)
    (small : |whole| < 10 ^ 21) :
    ∃ back, readText? (toText number) = some back ∧ ReadBack number back := by
  rw [toText_of_whole finite same small]
  by_cases within : |whole| < 2 ^ 63
  · have fits : ¬ Saturates number := by
      rw [saturates_iff same]
      exact fun saturates => saturates.1.not_gt within
    exact ⟨number, readText?_within found same within, .self finite fits⟩
  · obtain ⟨back, read, finite', value⟩ := readText?_beyond (Int.not_lt.mp within)
    refine ⟨back, read, finite', fun fits => ?_, fun _ => ?_⟩
    · -- Only the power of two itself is neither within nor lost.
      have size : whole.natAbs = 2 ^ 63 := by
        rw [saturates_iff same, Int.abs_eq_natAbs] at fits
        rw [Int.abs_eq_natAbs] at within small
        omega
      have signed := apply_signOf whole
      rw [size] at signed
      rw [value, same]
      exact_mod_cast signed
    · simp only [value, same, Int.cast_lt_zero, signOf]
      by_cases negative : whole < 0 <;> norm_num [negative, Sign.apply]

/-- A finite double is read back from its text, except for the integers that saturate. -/
theorem readText?_toText (finite : number.isFinite = true) :
    ∃ back, readText? (toText number) = some back ∧ ReadBack number back := by
  rcases zero_or_finite finite with ⟨sign, zero⟩ | ⟨sign, significand, exponent, positive, found⟩
  · exact readText?_toText_of_zero zero
  by_cases short : ∃ whole : ℤ, exactValue number = whole ∧ |whole| < 10 ^ 21
  · obtain ⟨whole, same, small⟩ := short
    exact readText?_toText_of_whole found finite same small
  · have other := mt (written_whole_iff finite).mp short
    have fits : ¬ Saturates number := by
      rintro ⟨whole, same, -, small⟩
      exact short ⟨whole, same, small⟩
    rw [toText_of_other found (by simpa using other)]
    exact ⟨number, readText?_shortest found, .self finite fits⟩

end Back

end Number

namespace Script

open Number

/--
Reading the text of a finite double, as an operand or for a conversion, gives a number equal to
the double, unless the double is an integer below the limit that needs more than 64 bits: that
one is read as two to the power of 63, with its sign.  An integer below the limit is written
with the nearest 64-bit integer, which is the integer itself if it has 64 bits.
-/
theorem number_text_reads_back_but_for_long_integers {number : Float}
    (finite : number.isFinite = true) :
    (∃ back, Value.toNumber? (.string (toText number)) = some back ∧
      toNumber (.string (toText number)) = back ∧
      ((back == number) = true ↔ ¬ Saturates number) ∧
      (Saturates number →
        exactValue back = if exactValue number < 0 then -2 ^ 63 else 2 ^ 63)) ∧
    ∀ whole : ℤ, exactValue number = whole → |whole| < 10 ^ 21 →
      toText number = toString (clampWhole whole) ∧
        (clampWhole whole = whole ↔ -2 ^ 63 ≤ whole ∧ whole < 2 ^ 63) := by
  refine ⟨?_, fun whole same small =>
    ⟨toText_of_whole finite same small, clampWhole_eq_self_iff whole⟩⟩
  obtain ⟨back, read, readBack⟩ := readText?_toText finite
  refine ⟨back, read, ?_, ?_, readBack.lost⟩
  · change (readText? (toText number)).getD notANumber = back
    rw [read, Option.getD_some]
  · rw [beq_iff_exactValue readBack.finite finite, readBack.eq_iff]

/-- Ten to the power of nineteen is written with the last integer, and that is read as another. -/
theorem ten_to_nineteen_is_not_read_back :
    (1e19 : Float).isFinite = true ∧ toText 1e19 = "9223372036854775807" ∧
      ∃ back, toNumber (.string (toText 1e19)) = back ∧ (back == 1e19) = false := by
  have finite : (1e19 : Float).isFinite = true := by decide +kernel
  have value : exactValue 1e19 = ((10 ^ 19 : ℤ) : ℚ) := by
    have same : (1e19 : Float) = Float.exactlyRepresentablePowersOfTen[19] := by decide +kernel
    have found : parts 1e19 = powerParts 19 :=
      (congrArg parts same).trans (parts_exactlyRepresentablePowersOfTen 19 (by decide))
    rw [exactValue_of_finite found]
    exact_mod_cast value_powerParts (by decide)
  have saturates : Saturates 1e19 := ⟨10 ^ 19, value, by decide, by decide⟩
  obtain ⟨⟨back, -, read, equal, -⟩, texts⟩ := number_text_reads_back_but_for_long_integers finite
  refine ⟨finite, (texts _ value (by decide)).1, back, read, ?_⟩
  exact Bool.not_eq_true _ ▸ fun same => equal.mp same saturates

end Script
end PropertyBinding
