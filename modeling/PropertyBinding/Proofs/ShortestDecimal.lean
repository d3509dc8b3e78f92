import Mathlib
import PropertyBinding.Proofs.NumeralText
import PropertyBinding.Proofs.Rounding

namespace PropertyBinding
namespace Number

open Float.Model UnpackedFloat

/-!
# The shortest decimal in the interval

The digits of a double are searched on the grids of decimals with one digit, with two digits
and so on.  What a grid has to offer lies in the rounding interval, because only decimals
that do are offered.  With seventeen digits the grid is finer than the interval is wide, so
one of the two neighbours of the number is in the interval and the search ends.
-/

/-! ## Numbers and their digits -/

theorem digitCount_pos (number : Nat) : 0 < digitCount number :=
  Nat.length_toDigits_pos

theorem digitCount_bounds {number : Nat} (positive : 0 < number) :
    10 ^ (digitCount number - 1) ≤ number ∧ number < 10 ^ digitCount number := by
  have many := digitCount_pos number
  refine ⟨?_, (Nat.length_toDigits_le_iff (by decide) many).mp (Nat.le_refl _)⟩
  rcases Nat.eq_zero_or_pos (digitCount number - 1) with none | more
  · rw [none]
    exact positive
  · refine Nat.not_lt.mp fun less => ?_
    have fewer : digitCount number ≤ digitCount number - 1 :=
      (Nat.length_toDigits_le_iff (by decide) more).mpr less
    omega

/-- The number of digits is known by the powers of ten on either side. -/
theorem digitCount_eq {number count : Nat} (low : 10 ^ (count - 1) ≤ number)
    (high : number < 10 ^ count) : digitCount number = count := by
  have positive : 0 < number := (Nat.pow_pos (by decide)).trans_le low
  obtain ⟨low', high'⟩ := digitCount_bounds positive
  have fewer := (Nat.pow_lt_pow_iff_right (by decide)).mp (low'.trans_lt high)
  have more := (Nat.pow_lt_pow_iff_right (by decide)).mp (low.trans_lt high')
  omega

/-! ## What an interval holds -/

/-- Whether a value is in an interval; the ends count if the interval is closed. -/
def Interval.Holds (interval : Interval) (value : ℚ) : Prop :=
  let scaled := value * interval.denominator
  let least : ℚ := interval.numerator - interval.below
  let most : ℚ := interval.numerator + interval.above
  least ≤ scaled ∧ scaled ≤ most ∧ (interval.closed = false → least < scaled ∧ scaled < most)

/-- A value as far below the number as the interval reaches is in the interval. -/
theorem Interval.holds_below {interval : Interval} {value gap : ℚ} (up : 0 < interval.above)
    (same : (interval.numerator : ℚ) = value * interval.denominator + gap) (least : 0 ≤ gap)
    (fits : gap ≤ interval.below) (inside : interval.closed = false → gap < interval.below) :
    interval.Holds value := by
  have up' : (0 : ℚ) < interval.above := by exact_mod_cast up
  refine ⟨by linarith, by linarith, fun opened => ?_⟩
  have := inside opened
  constructor <;> linarith

/-- A value as far above the number as the interval reaches is in the interval. -/
theorem Interval.holds_above {interval : Interval} {value gap : ℚ} (down : 0 < interval.below)
    (same : value * interval.denominator = interval.numerator + gap) (least : 0 ≤ gap)
    (fits : gap ≤ interval.above) (inside : interval.closed = false → gap < interval.above) :
    interval.Holds value := by
  have down' : (0 : ℚ) < interval.below := by exact_mod_cast down
  refine ⟨by linarith, by linarith, fun opened => ?_⟩
  have := inside opened
  constructor <;> linarith

/-- What counts as near enough for an interval, which is closed or open. -/
theorem reaches_eq {closed : Bool} {distance margin : Nat} :
    (if closed = true then decide (distance ≤ margin) else decide (distance < margin)) =
      decide (distance ≤ margin ∧ (closed = false → distance < margin)) := by
  cases closed <;> simp
  omega

/-- A distance in the places of the grid is the distance in those of the interval. -/
theorem reaches_div {closed : Bool} {distance margin spread : Nat} (wide : 0 < spread)
    (fits : distance ≤ margin * spread ∧ (closed = false → distance < margin * spread)) :
    (distance : ℚ) / spread ≤ margin ∧ (closed = false → (distance : ℚ) / spread < margin) := by
  have wide' : (0 : ℚ) < spread := by exact_mod_cast wide
  rw [div_le_iff₀ wide', div_lt_iff₀ wide']
  exact_mod_cast fits

/-- The step of a grid, in the places of the interval and of the grid. -/
theorem Interval.step_eq (interval : Interval) (unit : Int) :
    ((interval.denominator * Nat.pow 10 unit.toNat : Nat) : ℚ) =
      10 ^ unit * interval.denominator * (Nat.pow 10 (-unit).toNat : Nat) := by
  have places : ((unit.toNat : Nat) : Int) = unit + (-unit).toNat := by omega
  have powers : (10 : ℚ) ^ unit.toNat = 10 ^ unit * 10 ^ (-unit).toNat := by
    rw [← zpow_natCast, places, zpow_add₀ (by norm_num), zpow_natCast]
  rw [Nat.pow_eq, Nat.pow_eq]
  push_cast
  rw [powers]
  ring

/-- The whole number just below the reciprocal of a fraction. -/
theorem reciprocal_spec {numerator denominator : Nat} (positive : 0 < numerator)
    (less : numerator < denominator) :
    let count := (denominator + numerator - 1) / numerator - 1
    0 < count ∧ count * numerator < denominator ∧ denominator ≤ (count + 1) * numerator := by
  intro count
  have split := Nat.div_add_mod (denominator + numerator - 1) numerator
  have rest := Nat.mod_lt (denominator + numerator - 1) positive
  have some' : 1 < (denominator + numerator - 1) / numerator :=
    (Nat.le_div_iff_mul_le positive).mpr (by omega)
  have same : (denominator + numerator - 1) / numerator = count + 1 := by omega
  rw [same, Nat.mul_comm] at split
  rw [Nat.add_mul] at split ⊢
  omega

section Grid

variable {interval : Interval} (positive : 0 < interval.numerator)
  (positive' : 0 < interval.denominator)
include positive'

include positive in
/-- The point of an interval is the power of ten just above its number. -/
theorem Interval.point_bounds :
    (10 : ℚ) ^ (interval.point - 1) ≤ interval.numerator / interval.denominator ∧
      (interval.numerator : ℚ) / interval.denominator < 10 ^ interval.point := by
  have above : (0 : ℚ) < interval.denominator := by exact_mod_cast positive'
  have above' : (0 : ℚ) < interval.numerator := by exact_mod_cast positive
  unfold Interval.point
  split
  · next whole =>
    have size : 0 < interval.numerator / interval.denominator := Nat.div_pos whole positive'
    obtain ⟨low, high⟩ := digitCount_bounds size
    have many := digitCount_pos (interval.numerator / interval.denominator)
    rw [Nat.le_div_iff_mul_le positive'] at low
    rw [Nat.div_lt_iff_lt_mul positive'] at high
    have places : ((digitCount (interval.numerator / interval.denominator) : Int) - 1) =
        ((digitCount (interval.numerator / interval.denominator) - 1 : Nat) : Int) := by omega
    rw [places, zpow_natCast, zpow_natCast, le_div_iff₀ above, div_lt_iff₀ above]
    exact ⟨by exact_mod_cast low, by exact_mod_cast high⟩
  · next fraction =>
    -- The digits are counted on the reciprocal, which is rounded up and less one.
    obtain ⟨size, below, reached⟩ := reciprocal_spec positive (Nat.not_le.mp fraction)
    generalize (interval.denominator + interval.numerator - 1) / interval.numerator - 1 = count at *
    obtain ⟨low, high⟩ := digitCount_bounds size
    have many := digitCount_pos count
    have low' : (10 : ℚ) ^ (digitCount count - 1) ≤ count := by exact_mod_cast low
    have high' : (count : ℚ) + 1 ≤ 10 ^ digitCount count := by exact_mod_cast high
    have places : (1 - digitCount count : Int) = -((digitCount count - 1 : Nat) : Int) := by omega
    have places' : (1 - digitCount count - 1 : Int) = -(digitCount count : Int) := by omega
    rw [places', places, zpow_neg, zpow_neg, zpow_natCast, zpow_natCast, le_div_iff₀ above,
      div_lt_iff₀ above, inv_mul_le_iff₀ (by positivity), lt_inv_mul_iff₀ (by positivity)]
    constructor
    · calc (interval.denominator : ℚ) ≤ (count + 1) * interval.numerator := by
            exact_mod_cast reached
        _ ≤ 10 ^ digitCount count * interval.numerator := by gcongr
    · calc (10 : ℚ) ^ (digitCount count - 1) * interval.numerator
          ≤ count * interval.numerator := by gcongr
        _ < interval.denominator := by exact_mod_cast below

/-- The neighbours of the number on a grid, and how far they are from it. -/
theorem Interval.neighbours (unit : Int) :
    let spread := Nat.pow 10 (-unit).toNat
    let step := interval.denominator * Nat.pow 10 unit.toNat
    let low := interval.numerator * spread / step
    let rest := interval.numerator * spread % step
    (interval.numerator : ℚ) = low * 10 ^ unit * interval.denominator + rest / spread ∧
      ((low + 1 : Nat) : ℚ) * 10 ^ unit * interval.denominator =
        interval.numerator + (step - rest : Nat) / spread ∧
      rest < step ∧ 0 < spread := by
  intro spread step low rest
  have wide : 0 < spread := Nat.pow_pos (by decide)
  have wide' : (0 : ℚ) < spread := by exact_mod_cast wide
  have room : 0 < step := Nat.mul_pos positive' (Nat.pow_pos (by decide))
  have less : rest < step := Nat.mod_lt _ room
  have size : (step : ℚ) = 10 ^ unit * interval.denominator * spread := interval.step_eq unit
  have split : ((step * low + rest : Nat) : ℚ) = (interval.numerator * spread : Nat) :=
    congrArg Nat.cast (Nat.div_add_mod (interval.numerator * spread) step)
  push_cast [size] at split
  refine ⟨?_, ?_, less, wide⟩
  · rw [eq_comm, ← mul_left_inj' wide'.ne', ← split]
    field_simp
  · rw [← mul_left_inj' wide'.ne', Nat.cast_sub less.le, size]
    push_cast
    field_simp
    linarith

include positive

/-- The lower neighbour has as many digits as the grid. -/
theorem Interval.low_bounds {count : Nat} {unit : Int} (some' : 0 < count)
    (place : interval.point = unit + count) :
    let low := interval.numerator * Nat.pow 10 (-unit).toNat /
      (interval.denominator * Nat.pow 10 unit.toNat)
    10 ^ (count - 1) ≤ low ∧ low < 10 ^ count := by
  intro low
  obtain ⟨least, most⟩ := interval.point_bounds positive positive'
  obtain ⟨split, next, less, wide⟩ := interval.neighbours positive' unit
  change _ = (low : ℚ) * _ * _ + _ at split
  change ((low + 1 : Nat) : ℚ) * _ * _ = _ at next
  clear_value low
  have size : (0 : ℚ) < interval.denominator := by exact_mod_cast positive'
  have wide' : (0 : ℚ) < Nat.pow 10 (-unit).toNat := by exact_mod_cast wide
  generalize Nat.pow 10 (-unit).toNat = spread at *
  generalize interval.denominator * Nat.pow 10 unit.toNat = step at *
  generalize interval.numerator * spread % step = rest at *
  have below : (0 : ℚ) ≤ rest / spread := by positivity
  have above : (0 : ℚ) < (step - rest : Nat) / spread :=
    div_pos (by exact_mod_cast Nat.sub_pos_of_lt less) wide'
  have places : interval.point - 1 = unit + ((count - 1 : Nat) : Int) := by omega
  rw [places, zpow_add₀ (by norm_num), zpow_natCast, le_div_iff₀ size] at least
  rw [place, zpow_add₀ (by norm_num), zpow_natCast, div_lt_iff₀ size] at most
  have scale : (0 : ℚ) ≤ 10 ^ unit * interval.denominator := by positivity
  constructor
  · have scaled : (10 : ℚ) ^ (count - 1) < (low + 1 : Nat) :=
      lt_of_mul_lt_mul_right (by linarith) scale
    exact Nat.lt_succ_iff.mp (by exact_mod_cast scaled)
  · have scaled : (low : ℚ) < 10 ^ count := lt_of_mul_lt_mul_right (by linarith) scale
    exact_mod_cast scaled

variable (down : 0 < interval.below) (up : 0 < interval.above)

include down up in
/-- What a grid offers is a decimal in the interval. -/
theorem Interval.onGrid?_holds {count : Nat} {decimal : Digits} (some' : 0 < count)
    (found : interval.onGrid? count = some decimal) :
    0 < decimal.digits ∧ interval.Holds decimal.value := by
  obtain ⟨split, next, -, wide⟩ := interval.neighbours positive' (interval.point - count)
  have digits := interval.low_bounds positive positive' some' (sub_add_cancel _ _).symm
  unfold Interval.onGrid? at found
  dsimp only at found digits
  generalize Nat.pow 10 (-(interval.point - count : Int)).toNat = spread at *
  generalize interval.denominator * Nat.pow 10 (interval.point - count : Int).toNat = step at *
  generalize interval.numerator * spread / step = low at *
  generalize interval.numerator * spread % step = rest at *
  simp only [reaches_eq] at found
  split at found
  · next high =>
    rw [Bool.and_eq_true, decide_eq_true_eq] at high
    obtain ⟨fits, inside⟩ := reaches_div wide high.1
    cases found
    refine ⟨Nat.succ_pos low, interval.holds_above down ?_ (by positivity) fits inside⟩
    rw [Digits.value, decimalValue, add_sub_cancel_right]
    exact next
  · split at found
    · next fits =>
      rw [decide_eq_true_eq] at fits
      obtain ⟨fits, inside⟩ := reaches_div wide fits
      cases found
      refine ⟨?_, interval.holds_below up ?_ (by positivity) fits inside⟩
      · exact (Nat.pow_pos (by decide)).trans_le digits.1
      · rw [Digits.value, decimalValue, digitCount_eq digits.1 digits.2]
        exact split
    · cases found

omit positive in
/-- A grid that is finer than the interval is wide has something to offer. -/
theorem Interval.onGrid?_isSome {count : Nat}
    (fine : (10 : ℚ) ^ (interval.point - count : Int) * interval.denominator <
      interval.below + interval.above) : ∃ decimal, interval.onGrid? count = some decimal := by
  obtain ⟨-, -, less, wide⟩ := interval.neighbours positive' (interval.point - count)
  have step_lt : interval.denominator * Nat.pow 10 (interval.point - count : Int).toNat <
      (interval.below + interval.above) * Nat.pow 10 (-(interval.point - count : Int)).toNat := by
    have wide' : (0 : ℚ) < Nat.pow 10 (-(interval.point - count : Int)).toNat := by
      exact_mod_cast wide
    have scaled := mul_lt_mul_of_pos_right fine wide'
    rw [← interval.step_eq] at scaled
    exact_mod_cast scaled
  unfold Interval.onGrid?
  dsimp only
  generalize Nat.pow 10 (-(interval.point - count : Int)).toNat = spread at *
  generalize interval.denominator * Nat.pow 10 (interval.point - count : Int).toNat = step at *
  generalize interval.numerator * spread / step = low at *
  generalize interval.numerator * spread % step = rest at *
  simp only [reaches_eq]
  rw [Nat.add_mul] at step_lt
  by_cases fits : rest ≤ interval.below * spread ∧
      (interval.closed = false → rest < interval.below * spread)
  · -- Whatever the upper neighbour does, the lower one is there.
    split
    · exact ⟨_, rfl⟩
    · exact ⟨_, if_pos (decide_eq_true fits)⟩
  · have fits' : step - rest ≤ interval.above * spread ∧
        (interval.closed = false → step - rest < interval.above * spread) := by
      by_cases near : rest < interval.below * spread
      · exact absurd ⟨near.le, fun _ => near⟩ fits
      · exact ⟨by omega, fun _ => by omega⟩
    refine ⟨_, if_pos ?_⟩
    rw [decide_eq_true fits', decide_eq_false fits]
    rfl

end Grid

/-! ## The interval of a double -/

/-- Four quarters of the last place are one, over the denominator of the interval. -/
theorem quarter_scale (exponent : Int) :
    (4 : ℚ) * (1 <<< (exponent - 2).toNat : Nat) =
      2 ^ exponent * (1 <<< (-(exponent - 2)).toNat : Nat) := by
  have places : ((exponent - 2).toNat : Int) = exponent - 2 + (-(exponent - 2)).toNat := by omega
  have quarter : (2 : ℚ) ^ exponent = 4 * 2 ^ (exponent - 2) := by
    rw [zpow_sub₀ (by norm_num)]
    norm_num
    ring
  rw [Nat.one_shiftLeft, Nat.one_shiftLeft]
  push_cast
  rw [← zpow_natCast, places, zpow_add₀ (by norm_num), zpow_natCast, quarter]
  ring

/-- The interval of a double, in its own last place. -/
theorem ofBinary_spec (significand : Nat) (exponent : Int) :
    let interval := Interval.ofBinary significand exponent
    0 < interval.denominator ∧ 0 < interval.below ∧ 0 < interval.above ∧
      (interval.numerator : ℚ) = significand * 2 ^ exponent * interval.denominator ∧
      (interval.above : ℚ) = 1 / 2 * 2 ^ exponent * interval.denominator ∧
      (interval.below : ℚ) =
        (if significand = 2 ^ 52 then 1 / 4 else 1 / 2) * 2 ^ exponent * interval.denominator ∧
      interval.closed = decide (significand % 2 = 0) := by
  intro interval
  have scale := quarter_scale exponent
  have power : 1 <<< 52 = 2 ^ 52 := Nat.one_shiftLeft 52
  have width : 0 < 1 <<< (exponent - 2).toNat := shiftLeft_pos (by decide) _
  have some' : 0 < 1 <<< (-(exponent - 2)).toNat := shiftLeft_pos (by decide) _
  simp only [interval, Interval.ofBinary, power]
  generalize 1 <<< (exponent - 2).toNat = places at *
  generalize 1 <<< (-(exponent - 2)).toNat = denominator at *
  refine ⟨some', ?_, by omega, ?_, ?_, ?_, trivial⟩
  · split <;> omega
  · push_cast
    linear_combination significand * scale
  · push_cast
    linear_combination 1 / 2 * scale
  · split
    · push_cast
      linear_combination 1 / 4 * scale
    · push_cast
      linear_combination 1 / 2 * scale

theorem ofBinary_numerator_pos {significand : Nat} (exponent : Int) (positive : 0 < significand) :
    0 < (Interval.ofBinary significand exponent).numerator := by
  obtain ⟨some', -, -, number, -⟩ := ofBinary_spec significand exponent
  have size : (0 : ℚ) < (Interval.ofBinary significand exponent).numerator := by
    rw [number]
    positivity
  exact_mod_cast size

/-- What is in the interval of a double is around it. -/
theorem around_of_holds {significand : Nat} {exponent : Int} {value : ℚ}
    (holds : (Interval.ofBinary significand exponent).Holds value) :
    Around significand exponent value := by
  obtain ⟨some', -, -, number, above, below, closed⟩ := ofBinary_spec significand exponent
  have size : (0 : ℚ) < (Interval.ofBinary significand exponent).denominator := by
    exact_mod_cast some'
  have same : value = value / 2 ^ exponent * 2 ^ exponent :=
    (div_mul_cancel₀ _ (by positivity)).symm
  simp only [Interval.Holds] at holds
  rw [number, above, below, closed, same] at holds
  obtain ⟨least, most, inside⟩ := holds
  rw [Around]
  generalize ((Interval.ofBinary significand exponent).denominator : ℚ) = denominator at *
  generalize value / 2 ^ exponent = place at *
  have scale : 0 < 2 ^ exponent * denominator := by positivity
  have high : place ≤ significand + 1 / 2 := le_of_mul_le_mul_right (by linarith) scale
  have low : (significand : ℚ) - (if significand = 2 ^ 52 then 1 / 4 else 1 / 2) ≤ place :=
    le_of_mul_le_mul_right (by linarith) scale
  have low' : (significand : ℚ) - 1 / 2 ≤ place := by
    split at low <;> linarith
  refine ⟨⟨abs_le.mpr ⟨by linarith, by linarith⟩, fun tie => ?_⟩, fun power => ?_⟩
  · -- Only a closed interval has its ends, and its significand is even.
    by_contra odd
    obtain ⟨below', above'⟩ := inside (decide_eq_false odd)
    have notPower : significand ≠ 2 ^ 52 := by
      rintro rfl
      exact odd (by decide)
    rw [if_neg notPower] at below'
    have high' : place < significand + 1 / 2 := lt_of_mul_lt_mul_right (by linarith) scale.le
    have low'' : (significand : ℚ) - 1 / 2 < place := lt_of_mul_lt_mul_right (by linarith) scale.le
    exact absurd tie (abs_lt.mpr ⟨by linarith, by linarith⟩).ne
  · rw [if_pos power, power] at low
    push_cast at low
    exact low

/-- Seventeen digits are enough for the interval of a double. -/
theorem ofBinary_fine {significand : Nat} (exponent : Int) (positive : 0 < significand)
    (small : significand < 2 ^ 53) :
    let interval := Interval.ofBinary significand exponent
    (10 : ℚ) ^ (interval.point - 17 : Int) * interval.denominator <
      interval.below + interval.above := by
  intro interval
  obtain ⟨some', -, -, number, above, below, -⟩ := ofBinary_spec significand exponent
  have size : (0 : ℚ) < interval.denominator := by exact_mod_cast some'
  have least := (Interval.point_bounds (ofBinary_numerator_pos exponent positive) some').1
  change _ ≤ (interval.numerator : ℚ) / interval.denominator at least
  rw [number, mul_div_cancel_right₀ _ size.ne'] at least
  have power : (10 : ℚ) ^ (interval.point - 1) = 10 ^ (interval.point - 17) * 10 ^ 16 := by
    rw [← zpow_natCast, ← zpow_add₀ (by norm_num)]
    congr 1
    push_cast
    ring
  have room : (significand : ℚ) / 10 ^ 16 <
      (if significand = 2 ^ 52 then 1 / 4 else 1 / 2) + 1 / 2 := by
    split
    · next same =>
      rw [same]
      norm_num
    · have small' : (significand : ℚ) < 2 ^ 53 := by exact_mod_cast small
      rw [div_lt_iff₀ (by norm_num)]
      linarith
  calc (10 : ℚ) ^ (interval.point - 17 : Int) * interval.denominator
      ≤ significand / 10 ^ 16 * (2 ^ exponent * interval.denominator) := by
        rw [power] at least
        have scaled := mul_le_mul_of_nonneg_right least size.le
        linarith
    _ < ((if significand = 2 ^ 52 then 1 / 4 else 1 / 2) + 1 / 2) *
          (2 ^ exponent * interval.denominator) := by gcongr
    _ = interval.below + interval.above := by
        rw [below, above]
        ring

/-- The shortest decimal of a double is a positive decimal around it. -/
theorem shortest_spec {significand : Nat} (exponent : Int) (positive : 0 < significand)
    (small : significand < 2 ^ 53) :
    let decimal := (Interval.ofBinary significand exponent).shortest
    0 < decimal.digits ∧ Around significand exponent decimal.value := by
  intro decimal
  obtain ⟨some', down, up, -⟩ := ofBinary_spec significand exponent
  obtain ⟨most, offered⟩ := Interval.onGrid?_isSome some' (ofBinary_fine exponent positive small)
  have ends : ((List.range mostDigits).findSome? fun count =>
      (Interval.ofBinary significand exponent).onGrid? (count + 1)).isSome = true :=
    List.findSome?_isSome_iff.mpr
      ⟨16, List.mem_range.mpr (by decide), Option.isSome_of_eq_some offered⟩
  obtain ⟨first, searched⟩ := Option.isSome_iff_exists.mp ends
  obtain ⟨count, -, found⟩ := List.exists_of_findSome?_eq_some searched
  have same : decimal = first := by
    simp only [decimal, Interval.shortest]
    rw [searched]
    rfl
  rw [same]
  have holds := Interval.onGrid?_holds (ofBinary_numerator_pos exponent positive) some' down up
    (Nat.succ_pos count) found
  exact ⟨holds.1, around_of_holds holds.2⟩

end Number
end PropertyBinding
