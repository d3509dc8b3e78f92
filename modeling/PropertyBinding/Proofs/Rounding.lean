import Mathlib
import PropertyBinding.Proofs.WholeNumber

namespace PropertyBinding
namespace Number

open Float.Model UnpackedFloat

/-!
# Rounding an exact value

Products and quotients of doubles are rounded from a mantissa with two residual bits.
Such a mantissa describes the exact value of the result: the residual bits say in which
half of the last place it lies.  Shifting keeps the description true, and what the
description is rounded to is the whole number nearest to the value, a tie going to the
even one.

So the result of rounding is known from the exact value alone.  Every value in the
rounding interval of a double rounds to that double, however many digits it was
calculated with.
-/

/-! ## Descriptions -/

/--
What a mantissa with residual bits says about a value: the round bit stands for half of the
last place, and the sticky bit for something below that half.
-/
def Describes (mantissa : ExtendedMantissa) (value : ℚ) : Prop :=
  let least : ℚ := mantissa.mantissa + (if mantissa.roundBit then 1 / 2 else 0)
  if mantissa.stickyBit then least < value ∧ value < least + 1 / 2 else value = least

/-- The whole number nearest to a value, or the even one of the two nearest. -/
def IsNearest (whole : Nat) (value : ℚ) : Prop :=
  |value - whole| ≤ 1 / 2 ∧ (|value - whole| = 1 / 2 → whole % 2 = 0)

theorem IsNearest.unique {whole whole' : Nat} {value : ℚ} (near : IsNearest whole value)
    (near' : IsNearest whole' value) : whole = whole' := by
  wlog less : whole < whole' generalizing whole whole'
  · rcases Nat.lt_or_eq_of_le (Nat.not_lt.mp less) with more | same
    · exact (this near' near more).symm
    · exact same.symm
  -- Two of them are neighbours, and the value lies halfway, so both would be even.
  exfalso
  have above := (abs_le.mp near.1).2
  have below := (abs_le.mp near'.1).1
  have next : (whole : ℚ) + 1 ≤ whole' := by exact_mod_cast less
  have neighbours : (whole' : ℚ) = whole + 1 := by linarith
  have half : value - whole = 1 / 2 := by linarith
  have half' : value - whole' = -(1 / 2) := by linarith
  have even := near.2 (by rw [half]; norm_num)
  have even' := near'.2 (by rw [half']; norm_num)
  have step : whole' = whole + 1 := by exact_mod_cast neighbours
  omega

section Describing

variable {mantissa : ExtendedMantissa} {value : ℚ}

/-- A described value is at least the mantissa, and less than the next one. -/
theorem Describes.bounds (described : Describes mantissa value) :
    (mantissa.mantissa : ℚ) ≤ value ∧ value < mantissa.mantissa + 1 := by
  rcases mantissa with ⟨digits, roundBit, stickyBit⟩
  cases roundBit <;> cases stickyBit <;>
    simp only [Describes, if_true, if_false, Bool.false_eq_true] at described ⊢ <;>
    constructor <;> linarith

/-- A description is rounded to the whole number nearest to the value. -/
theorem Describes.isNearest (described : Describes mantissa value) :
    IsNearest mantissa.roundedMantissa value := by
  rcases mantissa with ⟨digits, roundBit, stickyBit⟩
  cases roundBit <;> cases stickyBit <;>
    simp only [Describes, if_true, if_false, Bool.false_eq_true] at described <;>
    simp only [ExtendedMantissa.roundedMantissa, ExtendedMantissa.accuracy,
      Accuracy.roundToNearestEven]
  case false.false =>
    have none : value - digits = 0 := by linarith
    simp [IsNearest, none]
  case false.true =>
    have near : |value - digits| < 1 / 2 := abs_lt.mpr ⟨by linarith, by linarith⟩
    exact ⟨near.le, fun tie => absurd tie near.ne⟩
  case true.false =>
    rcases Nat.mod_two_eq_zero_or_one digits with even | odd
    · have half : value - digits = 1 / 2 := by linarith
      rw [even, Nat.add_zero]
      exact ⟨by rw [half]; norm_num, fun _ => even⟩
    · have half : value - (digits + 1 : Nat) = -(1 / 2) := by
        push_cast
        linarith
      rw [odd]
      exact ⟨by rw [half]; norm_num, fun _ => by omega⟩
  case true.true =>
    have near : |value - (digits + 1 : Nat)| < 1 / 2 := by
      push_cast
      exact abs_lt.mpr ⟨by linarith, by linarith⟩
    exact ⟨near.le, fun tie => absurd tie near.ne⟩

/-- The digit that a shift takes off the mantissa becomes the round bit. -/
theorem half_of_digits (digits : Nat) :
    ((digits / 2 : Nat) : ℚ) + (if (digits % 2 != 0) = true then 1 / 2 else 0) = digits / 2 := by
  have split : (digits : ℚ) = 2 * (digits / 2 : Nat) + (digits % 2 : Nat) := by
    exact_mod_cast (Nat.div_add_mod digits 2).symm
  rcases Nat.mod_two_eq_zero_or_one digits with even | odd
  · rw [even] at split ⊢
    simp only [bne_self_eq_false, Bool.false_eq_true, if_false, split]
    push_cast
    ring
  · rw [odd] at split ⊢
    rw [if_pos (by decide), split]
    push_cast
    ring

theorem Describes.shiftRightOne (described : Describes mantissa value) :
    Describes mantissa.shiftRightOne (value / 2) := by
  rcases mantissa with ⟨digits, roundBit, stickyBit⟩
  have half := half_of_digits digits
  simp only [Describes, ExtendedMantissa.shiftRightOne]
  cases roundBit <;> cases stickyBit <;>
    simp only [Describes, if_true, if_false, Bool.false_eq_true, Bool.or_self, Bool.or_true,
      Bool.or_false] at described ⊢ <;>
    first
      | linarith
      | constructor <;> linarith

/-- A shift divides the value by a power of two, and loses nothing that rounding asks for. -/
theorem Describes.shiftRight (described : Describes mantissa value) (places : Nat) :
    Describes (mantissa >>> places) (value / 2 ^ places) := by
  change Describes (Nat.repeat ExtendedMantissa.shiftRightOne places mantissa) _
  induction places with
  | zero => simpa [Nat.repeat] using described
  | succ places step =>
      rw [Nat.repeat, pow_succ, ← div_div]
      exact step.shiftRightOne

end Describing

theorem describes_exact (significand : Nat) :
    Describes (.ofMantissaAndAccuracy significand .exact) significand := by
  simp [Describes, ExtendedMantissa.ofMantissaAndAccuracy]

/-- A whole quotient and the fraction that is left describe the exact quotient. -/
theorem describes_quotient (dividend : Nat) {divisor : Nat} (positive : 0 < divisor) :
    Describes (.ofMantissaAndAccuracy (dividend / divisor)
      (accuracyOfFraction (dividend % divisor) divisor)) (dividend / divisor) := by
  have positive' : (0 : ℚ) < divisor := by exact_mod_cast positive
  have split : (dividend : ℚ) / divisor =
      (dividend / divisor : Nat) + (dividend % divisor : Nat) / divisor := by
    rw [eq_comm, add_div' _ _ _ positive'.ne']
    congr 1
    exact_mod_cast Nat.div_add_mod' dividend divisor
  have small : (dividend % divisor : Nat) / (divisor : ℚ) < 1 := by
    rw [div_lt_one positive']
    exact_mod_cast Nat.mod_lt dividend positive
  rw [split]
  generalize dividend / divisor = quotient at *
  generalize dividend % divisor = rest at *
  unfold accuracyOfFraction
  by_cases none : rest = 0
  · simp [none, Describes, ExtendedMantissa.ofMantissaAndAccuracy]
  · have some' : (0 : ℚ) < rest / divisor := by positivity
    rw [if_neg none]
    rcases Nat.lt_trichotomy (2 * rest) divisor with less | same | more
    · have less' : (rest : ℚ) / divisor < 1 / 2 := by
        rw [div_lt_iff₀ positive']
        have : (2 * rest : ℚ) < divisor := by exact_mod_cast less
        linarith
      simp only [Nat.compare_eq_lt.mpr less, ExtendedMantissa.ofMantissaAndAccuracy, Describes,
        if_true, if_false, Bool.false_eq_true]
      constructor <;> linarith
    · have same' : (rest : ℚ) / divisor = 1 / 2 := by
        rw [div_eq_iff positive'.ne', ← same]
        push_cast
        ring
      simp only [Nat.compare_eq_eq.mpr same, ExtendedMantissa.ofMantissaAndAccuracy, Describes,
        if_true, if_false, Bool.false_eq_true, same']
    · have more' : 1 / 2 < (rest : ℚ) / divisor := by
        rw [lt_div_iff₀ positive']
        have : (divisor : ℚ) < 2 * rest := by exact_mod_cast more
        linarith
      simp only [Nat.compare_eq_gt.mpr more, ExtendedMantissa.ofMantissaAndAccuracy, Describes,
        if_true]
      constructor <;> linarith

/-! ## Rounding intervals -/

/--
The values around a double that round to it, in its last place: half a place to either
side, but a quarter below a power of two, and the ends only if the significand is even.
-/
def Around (significand : Nat) (exponent : Int) (value : ℚ) : Prop :=
  IsNearest significand (value / 2 ^ exponent) ∧
    (significand = 2 ^ 52 → 2 ^ 52 - 1 / 4 ≤ value / 2 ^ exponent)

theorem around_self (significand : Nat) (exponent : Int) :
    Around significand exponent (significand * 2 ^ exponent) := by
  have same : (significand : ℚ) * 2 ^ exponent / 2 ^ exponent = significand :=
    mul_div_cancel_right₀ _ (by positivity)
  refine ⟨?_, fun power => ?_⟩
  · simp [IsNearest, same]
  · rw [same, power]
    norm_num

section Targets

variable {sign : Sign} {significand : Nat} {exponent : Int} {positive : 0 < significand}
  {value : ℚ}

/-- What a double of the format is made of. -/
theorem Canonical.bounds
    (canonical : Canonical .binary64 (.finite sign significand exponent positive)) :
    significand < 2 ^ 53 ∧ -1074 ≤ exponent ∧ exponent ≤ 971 ∧
      (exponent = -1074 ∨ 2 ^ 52 ≤ significand) := by
  obtain ⟨digits, reach, lowest, room⟩ := canonical
  simp only [storedExponent, Format.exponentBias] at digits reach lowest room
  refine ⟨(Nat.log2_lt (Nat.ne_of_gt positive)).mp (by omega), by omega, by omega, ?_⟩
  by_cases short : significand.log2 < 52
  · exact .inl (by have := lowest short; omega)
  · exact .inr ((Nat.le_log2 (Nat.ne_of_gt positive)).mp (by omega))

/-- The exponent the format wants, by the place of the leading digit. -/
theorem targetExponent_eq (total : Int) :
    Format.binary64.targetExponent total = max (total - 53) (-1074) := by
  simp only [Format.targetExponent, Format.mantissaBits, Format.minExponent]
  omega

/-- The leading digit of a mantissa is that of the value it describes. -/
theorem Describes.total {first : Nat} {start : Int} {accuracy : Accuracy}
    (described : Describes (.ofMantissaAndAccuracy first accuracy) (value / 2 ^ start)) :
    value < 2 ^ totalExponent first start ∧
      (0 < first → 2 ^ (totalExponent first start - 1) ≤ value) := by
  have bounds := described.bounds
  rw [mantissa_ofMantissaAndAccuracy, le_div_iff₀ (by positivity), div_lt_iff₀ (by positivity)]
    at bounds
  have scale : (0 : ℚ) < 2 ^ start := by positivity
  constructor
  · have digits : (first : ℚ) + 1 ≤ 2 ^ (first.log2 + 1) := by
      exact_mod_cast Nat.lt_log2_self (n := first)
    calc value < (first + 1) * 2 ^ start := bounds.2
      _ ≤ 2 ^ (first.log2 + 1) * 2 ^ start := by gcongr
      _ = 2 ^ totalExponent first start := by
          rw [← zpow_natCast, ← zpow_add₀ (by norm_num)]
          congr 1
  · intro positive
    have digits : (2 : ℚ) ^ first.log2 ≤ first := by
      exact_mod_cast Nat.log2_self_le (Nat.ne_of_gt positive)
    calc (2 : ℚ) ^ (totalExponent first start - 1) = 2 ^ first.log2 * 2 ^ start := by
          rw [← zpow_natCast, ← zpow_add₀ (by norm_num)]
          congr 1
          rw [totalExponent]
          omega
      _ ≤ first * 2 ^ start := by gcongr
      _ ≤ value := bounds.1

/-- A value around a double has no leading digit above that of the double. -/
theorem Around.high (around : Around significand exponent value) (small : significand < 2 ^ 53) :
    value < 2 ^ (53 + exponent) := by
  have near := (abs_le.mp around.1.1).2
  have room : (significand : ℚ) + 1 ≤ 2 ^ 53 := by exact_mod_cast small
  have scaled : value / 2 ^ exponent < 2 ^ 53 := by linarith
  rw [div_lt_iff₀ (by positivity)] at scaled
  rw [zpow_add₀ (by norm_num)]
  exact scaled

/--
A value around a double has the leading digit of the double, unless the double is a power
of two and the value lies just below.
-/
theorem Around.low (around : Around significand exponent value)
    (normal : 2 ^ 52 ≤ significand) :
    2 ^ (52 + exponent) ≤ value ∨
      significand = 2 ^ 52 ∧ (2 ^ 52 - 1 / 4) * 2 ^ exponent ≤ value := by
  have near := (abs_le.mp around.1.1).1
  by_cases power : significand = 2 ^ 52
  · have quarter := around.2 power
    rw [le_div_iff₀ (by positivity)] at quarter
    exact .inr ⟨power, quarter⟩
  · have more : (2 : ℚ) ^ 52 + 1 ≤ significand := by
      exact_mod_cast Nat.lt_of_le_of_ne normal (Ne.symm power)
    have scaled : (2 : ℚ) ^ 52 ≤ value / 2 ^ exponent := by linarith
    rw [le_div_iff₀ (by positivity)] at scaled
    rw [zpow_add₀ (by norm_num)]
    exact .inl scaled

variable {first : Nat} {start : Int} {accuracy : Accuracy}

/-- A power of two that is smaller has the smaller exponent. -/
theorem exponent_lt_of_two_zpow_lt {less more : Int} (smaller : (2 : ℚ) ^ less < 2 ^ more) :
    less < more :=
  (zpow_lt_zpow_iff_right₀ (by norm_num)).mp smaller

/--
The exponent that rounding aims at is that of the double, or one less just below a power of
two.
-/
theorem Around.target (around : Around significand exponent value)
    (canonical : Canonical .binary64 (.finite sign significand exponent positive))
    (described : Describes (.ofMantissaAndAccuracy first accuracy) (value / 2 ^ start))
    (low : start ≤ Format.binary64.targetExponent (totalExponent first start)) :
    Format.binary64.targetExponent (totalExponent first start) = exponent ∨
      Format.binary64.targetExponent (totalExponent first start) = exponent - 1 ∧
        -1074 < exponent ∧ significand = 2 ^ 52 ∧
        (2 ^ 52 - 1 / 4) * 2 ^ exponent ≤ value ∧ value < 2 ^ (52 + exponent) := by
  obtain ⟨small, least, -, normal⟩ := canonical.bounds
  obtain ⟨below, above⟩ := described.total
  rw [targetExponent_eq] at low ⊢
  have high : totalExponent first start - 53 ≤ exponent ∨ totalExponent first start ≤ -1021 := by
    rcases Nat.eq_zero_or_pos first with none | some'
    · rw [none, totalExponent, Nat.log2_zero] at low ⊢
      omega
    · have := exponent_lt_of_two_zpow_lt ((above some').trans_lt (around.high small))
      omega
  rcases normal with lowest | normal
  · omega
  by_cases short : exponent = -1074
  · omega
  rcases around.low normal with full | ⟨power, quarter⟩
  · have := exponent_lt_of_two_zpow_lt (full.trans_lt below)
    omega
  · by_cases full : 2 ^ (52 + exponent) ≤ value
    · have := exponent_lt_of_two_zpow_lt (full.trans_lt below)
      omega
    · have less := lt_of_not_ge full
      -- A quarter of a place below the power of two there is still the digit after its own.
      have next : (2 : ℚ) ^ (51 + exponent) < value := by
        refine lt_of_lt_of_le ?_ quarter
        rw [zpow_add₀ (by norm_num)]
        have scale : (0 : ℚ) < 2 ^ exponent := by positivity
        gcongr
        norm_num
      have reached := exponent_lt_of_two_zpow_lt (next.trans below)
      refine .inr ⟨?_, by omega, power, quarter, less⟩
      rcases Nat.eq_zero_or_pos first with none | some'
      · rw [none, totalExponent, Nat.log2_zero] at reached low
        omega
      · have := exponent_lt_of_two_zpow_lt ((above some').trans_lt less)
        omega

/-- The mantissa that has been shifted for rounding describes the value in the places it has. -/
theorem Describes.shifted {target : Int}
    (described : Describes (.ofMantissaAndAccuracy first accuracy) (value / 2 ^ start))
    (low : start ≤ target)
    (aimed : Format.binary64.targetExponent (totalExponent first start) = target) :
    ∃ shifted, shiftToTargetExponent .binary64 first start accuracy = (shifted, target) ∧
      Describes shifted (value / 2 ^ target) := by
  have distance : ((target - start).toNat : Int) = target - start := by omega
  have shifted := described.shiftRight (target - start).toNat
  rw [div_div, ← zpow_natCast, ← zpow_add₀ (by norm_num), distance, add_sub_cancel] at shifted
  refine ⟨_, ?_, shifted⟩
  rw [shiftToTargetExponent, aimed, shiftToExponent, distance, add_sub_cancel]

/-- A significand that the format has room for is left as it is by the second shift. -/
theorem roundWithAccuracy_of_first (sign : Sign) {shifted : ExtendedMantissa}
    (canonical : Canonical .binary64 (.finite sign significand exponent positive))
    (once : shiftToTargetExponent .binary64 first start accuracy = (shifted, exponent))
    (rounds : shifted.roundedMantissa = significand) :
    roundWithAccuracy .binary64 sign first start accuracy =
      .finite sign significand exponent positive := by
  simp only [roundWithAccuracy, once, rounds, shiftToTargetExponent_aimed canonical.aimed]
  exact dif_neg (Nat.ne_of_gt positive)

/-- Just below a power of two, in the places of the smaller numbers, the power is nearest. -/
theorem isNearest_below_power (quarter : (2 ^ 52 - 1 / 4) * 2 ^ exponent ≤ value)
    (below : value < 2 ^ (52 + exponent)) :
    IsNearest (2 ^ 53) (value / 2 ^ (exponent - 1)) := by
  have scale : (0 : ℚ) < 2 ^ (exponent - 1) := by positivity
  have half : (2 : ℚ) ^ exponent = 2 * 2 ^ (exponent - 1) := by
    rw [← zpow_one_add₀ (by norm_num), add_sub_cancel]
  rw [half] at quarter
  rw [zpow_add₀ (by norm_num), half] at below
  have low : (2 : ℚ) ^ 53 - 1 / 2 ≤ value / 2 ^ (exponent - 1) := by
    rw [le_div_iff₀ scale]
    linarith
  have high : value / 2 ^ (exponent - 1) < 2 ^ 53 := by
    rw [div_lt_iff₀ scale]
    linarith
  refine ⟨?_, fun _ => by norm_num⟩
  push_cast
  exact abs_le.mpr ⟨by linarith, by linarith⟩

/-- A value around a double rounds to it, with whatever digits it is described. -/
theorem Around.roundWithAccuracy (around : Around significand exponent value)
    (canonical : Canonical .binary64 (.finite sign significand exponent positive))
    (described : Describes (.ofMantissaAndAccuracy first accuracy) (value / 2 ^ start))
    (low : start ≤ Format.binary64.targetExponent (totalExponent first start)) :
    roundWithAccuracy .binary64 sign first start accuracy =
      .finite sign significand exponent positive := by
  rcases around.target canonical described low with aimed | ⟨aimed, above, rfl, quarter, below⟩
  · obtain ⟨shifted, once, describes⟩ := described.shifted (aimed ▸ low) aimed
    exact roundWithAccuracy_of_first sign canonical once (describes.isNearest.unique around.1)
  · -- The mantissa is rounded up to another digit, which the second shift takes off again.
    obtain ⟨shifted, once, describes⟩ := described.shifted (aimed ▸ low) aimed
    have carries := describes.isNearest.unique (isNearest_below_power quarter below)
    rw [roundWithAccuracy_of_carry sign once (by omega) carries]
    congr 1
    omega

end Targets

/-! ## Products and quotients -/

section Operations

variable {sign sign' : Sign} {factor factor' : Nat} {scale scale' : Int} {positive : 0 < factor}
  {positive' : 0 < factor'} {significand : Nat} {exponent : Int} {nonzero : 0 < significand}

/-- The place of the leading digit of a positive number. -/
theorem total_bounds {factor : Nat} (positive : 0 < factor) (scale : Int) :
    (factor : ℚ) * 2 ^ scale < 2 ^ totalExponent factor scale ∧
      2 ^ (totalExponent factor scale - 1) ≤ (factor : ℚ) * 2 ^ scale := by
  have same : (factor : ℚ) * 2 ^ scale / 2 ^ scale = factor :=
    mul_div_cancel_right₀ _ (by positivity)
  have total := Describes.total (same ▸ describes_exact factor)
  exact ⟨total.1, total.2 positive⟩

/-- A product rounds to the double that the exact product is around. -/
theorem Around.mul (around : Around significand exponent
      ((factor * 2 ^ scale) * (factor' * 2 ^ scale')))
    (canonical : Canonical .binary64 (.finite (sign * sign') significand exponent nonzero))
    (full : 2 ^ 52 ≤ factor * factor') :
    UnpackedFloat.mul .binary64 (.finite sign factor scale positive)
        (.finite sign' factor' scale' positive') =
      .finite (sign * sign') significand exponent nonzero := by
  have places : ((factor : ℚ) * 2 ^ scale) * (factor' * 2 ^ scale') / 2 ^ (scale + scale') =
      (factor * factor' : Nat) := by
    rw [zpow_add₀ (by norm_num), div_eq_iff (by positivity)]
    push_cast
    ring
  have digits : 52 ≤ (factor * factor').log2 := (Nat.le_log2 (by positivity)).mpr full
  refine around.roundWithAccuracy canonical (places ▸ describes_exact _) ?_
  rw [targetExponent_eq, totalExponent]
  omega

/-- A quotient has about as many digits as the dividend has more than the divisor. -/
theorem two_zpow_lt_quotient (positive : 0 < factor) (positive' : 0 < factor') (scale scale' : Int) :
    (2 : ℚ) ^ (totalExponent factor scale - totalExponent factor' scale' - 1) <
      (factor * 2 ^ scale) / (factor' * 2 ^ scale') := by
  have divisor := (total_bounds positive' scale').1
  rw [lt_div_iff₀ (by positivity)]
  calc (2 : ℚ) ^ (totalExponent factor scale - totalExponent factor' scale' - 1) *
        (factor' * 2 ^ scale')
      < 2 ^ (totalExponent factor scale - totalExponent factor' scale' - 1) *
        2 ^ totalExponent factor' scale' := by gcongr
    _ = 2 ^ (totalExponent factor scale - 1) := by
        rw [← zpow_add₀ (by norm_num)]
        congr 1
        omega
    _ ≤ factor * 2 ^ scale := (total_bounds positive scale).2

/-- A quotient rounds to the double that the exact quotient is around. -/
theorem Around.div (around : Around significand exponent
      ((factor * 2 ^ scale) / (factor' * 2 ^ scale')))
    (canonical : Canonical .binary64 (.finite (sign / sign') significand exponent nonzero)) :
    UnpackedFloat.div .binary64 (.finite sign factor scale positive)
        (.finite sign' factor' scale' positive') =
      .finite (sign / sign') significand exponent nonzero := by
  let start := min (scale - scale') (Format.binary64.targetExponent
    (totalExponent factor scale - totalExponent factor' scale'))
  let dividend := factor <<< (scale - scale' - start).toNat
  have distance : ((scale - scale' - start).toNat : Int) = scale - scale' - start := by omega
  have places : ((factor : ℚ) * 2 ^ scale) / (factor' * 2 ^ scale') / 2 ^ start =
      dividend / factor' := by
    have power : (2 : ℚ) ^ (scale - scale' - start).toNat =
        2 ^ scale / 2 ^ scale' / 2 ^ start := by
      rw [← zpow_natCast, distance, zpow_sub₀ (by norm_num), zpow_sub₀ (by norm_num)]
    simp only [dividend, Nat.shiftLeft_eq]
    push_cast
    rw [power]
    field_simp
  have described : Describes (.ofMantissaAndAccuracy (dividend / factor')
      (accuracyOfFraction (dividend % factor') factor'))
      (((factor : ℚ) * 2 ^ scale) / (factor' * 2 ^ scale') / 2 ^ start) :=
    places ▸ describes_quotient dividend positive'
  have least : start ≤ Format.binary64.targetExponent
      (totalExponent factor scale - totalExponent factor' scale') := Int.min_le_right _ _
  suffices aimed : start ≤ Format.binary64.targetExponent
      (totalExponent (dividend / factor') start) from
    around.roundWithAccuracy canonical described aimed
  clear_value dividend start
  have low := two_zpow_lt_quotient positive positive' scale scale'
  have reached := exponent_lt_of_two_zpow_lt (low.trans described.total.1)
  rw [targetExponent_eq] at least ⊢
  omega

end Operations

end Number
end PropertyBinding
