import Mathlib
import PropertyBinding.Number.Decimal

namespace PropertyBinding

/-!
# Decimal text

A decimal is written in positional notation: its significant digits, filled up with zeros to
the place of the point.  Taking such a text apart gives the digits and the place of the point
again, and the zeros change neither the number the digits make nor what it denotes.
-/

namespace Text

/-- No digit is blank. -/
theorem not_blank_of_isDigit {character : Char} (digit : character.isDigit = true) :
    isBlank character = false := by
  have apart : blankRanges.toList.all (fun blank => 0x39 < blank.1 || blank.2 < 0x30) = true := by
    decide
  have range : 0x30 ≤ character.toNat ∧ character.toNat ≤ 0x39 := by
    simpa [Char.isDigit, UInt32.le_iff_toNat_le] using digit
  rw [isBlank, ← Array.any_toList, List.any_eq_false]
  intro blank known
  have gap := List.all_eq_true.mp apart blank known
  simp only [Bool.and_eq_true, Bool.or_eq_true, decide_eq_true_eq] at gap ⊢
  omega

/-- Trimming leaves a text without blanks as it is. -/
theorem trimChars_of_visible {text : List Char}
    (visible : ∀ character ∈ text, isBlank character = false) : trimChars text = text := by
  have kept : ∀ part : List Char, part ⊆ text → part.dropWhile isBlank = part := by
    intro part inside
    refine List.dropWhile_eq_self_iff.mpr fun some' => ?_
    rw [visible _ (inside (List.getElem_mem some'))]
    exact Bool.false_ne_true
  rw [trimChars, kept text (List.Subset.refl _), kept text.reverse (by simp), List.reverse_reverse]

end Text

namespace Number

open Float.Model UnpackedFloat

/-! ## Runs of digits -/

/-- Whether a text is a run of digits. -/
def AllDigits (text : List Char) : Prop :=
  ∀ character ∈ text, character.isDigit = true

theorem AllDigits.append {text rest : List Char} (digits : AllDigits text)
    (digits' : AllDigits rest) : AllDigits (text ++ rest) :=
  List.forall_mem_append.mpr ⟨digits, digits'⟩

theorem AllDigits.sublist {text part : List Char} (digits : AllDigits text)
    (inside : part.Sublist text) : AllDigits part :=
  fun character known => digits character (inside.subset known)

theorem allDigits_zeros (count : Nat) : AllDigits (List.replicate count '0') := by
  intro character known
  rw [List.eq_of_mem_replicate known]
  rfl

theorem allDigits_toDigits (number : Nat) : AllDigits (Nat.toDigits 10 number) :=
  fun _ known => Nat.isDigit_of_mem_toDigits (by decide) (by decide) known

theorem natOfDigits_eq (digits : List Char) : natOfDigits digits = Nat.ofDigitChars 10 digits 0 := by
  simp only [natOfDigits, Nat.ofDigitChars_eq_foldl, Nat.mul_comm 10]

theorem natOfDigits_append (digits rest : List Char) :
    natOfDigits (digits ++ rest) = 10 ^ rest.length * natOfDigits digits + natOfDigits rest := by
  rw [natOfDigits_eq, natOfDigits_eq, natOfDigits_eq, Nat.ofDigitChars_append,
    Nat.ofDigitChars_eq_ofDigitChars_zero]

theorem natOfDigits_zeros (count : Nat) : natOfDigits (List.replicate count '0') = 0 := by
  rw [natOfDigits_eq, Nat.ofDigitChars_replicate_zero, Nat.mul_zero]

/-- Zeros in front of the digits change nothing. -/
theorem natOfDigits_zeros_append (count : Nat) (digits : List Char) :
    natOfDigits (List.replicate count '0' ++ digits) = natOfDigits digits := by
  rw [natOfDigits_append, natOfDigits_zeros, Nat.mul_zero, Nat.zero_add]

theorem natOfDigits_toDigits (number : Nat) : natOfDigits (Nat.toDigits 10 number) = number := by
  rw [natOfDigits_eq, Nat.ofDigitChars_ten_toDigits]

/-! ## Taking a text apart -/

/-- A run of characters of a class that ends is followed by nothing or by another character. -/
theorem splitRun {inside : Char → Bool} {run : List Char}
    (known : ∀ character ∈ run, inside character = true) (rest : List Char)
    (ends : rest.takeWhile inside = []) :
    (run ++ rest).takeWhile inside = run ∧ (run ++ rest).dropWhile inside = rest := by
  have cut : (run ++ rest).takeWhile inside = run ++ rest.takeWhile inside :=
    List.takeWhile_append_of_pos known
  rw [ends, List.append_nil] at cut
  refine ⟨cut, ?_⟩
  have whole := List.takeWhile_append_dropWhile (p := inside) (l := run ++ rest)
  rw [cut] at whole
  exact List.append_cancel_left whole

/-- The digits of a number begin with a digit. -/
theorem front_toDigits (number : Nat) :
    ∃ first tail, Nat.toDigits 10 number = first :: tail ∧ first.isDigit = true := by
  cases written : Nat.toDigits 10 number with
  | nil => exact absurd written Nat.toDigits_ne_nil
  | cons first tail =>
      exact ⟨first, tail, rfl, allDigits_toDigits number first (by simp [written])⟩

theorem ne_of_isDigit {first other : Char} (digit : first.isDigit = true)
    (apart : other.isDigit = false) : first ≠ other := by
  rintro rfl
  rw [digit] at apart
  cases apart

/-- A digit is no sign. -/
theorem splitSign_of_isDigit {first : Char} (digit : first.isDigit = true) (rest : List Char) :
    splitSign (first :: rest) = (false, first :: rest) := by
  unfold splitSign
  split
  · next same => exact absurd (List.cons.inj same).1 (ne_of_isDigit digit (by decide))
  · next same => exact absurd (List.cons.inj same).1 (ne_of_isDigit digit (by decide))
  · rfl

/-- Digits alone denote the number they are the digits of. -/
theorem unsigned?_whole (negative : Bool) {digits : List Char} (some' : digits ≠ [])
    (known : AllDigits digits) :
    unsigned? negative digits = some (.finite negative (natOfDigits digits) 0) := by
  have cut := splitRun known [] rfl
  rw [List.append_nil] at cut
  simp [unsigned?, cut, some', exponent?]

/-- Digits behind a point move the point to the left. -/
theorem unsigned?_point (negative : Bool) {digits fraction : List Char} (some' : digits ≠ [])
    (known : AllDigits digits) (known' : AllDigits fraction) :
    unsigned? negative (digits ++ '.' :: fraction) =
      some (.finite negative (natOfDigits (digits ++ fraction)) (-fraction.length)) := by
  have cut := splitRun known ('.' :: fraction) rfl
  have cut' := splitRun known' [] rfl
  rw [List.append_nil] at cut'
  simp [unsigned?, cut, cut', some', exponent?]

/-- What begins with a digit is not a special name, and has no sign but the one before it. -/
theorem ofChars?_of_digit {first : Char} (rest : List Char) (digit : first.isDigit = true) :
    Numeral.ofChars? (first :: rest) = unsigned? false (first :: rest) ∧
      Numeral.ofChars? ('-' :: first :: rest) = unsigned? true (first :: rest) := by
  have lower : first.toLower = first := by
    unfold Char.toLower
    simp only [Char.isDigit] at digit
    grind
  have unnamed : (first :: rest).map Char.toLower ≠ "inf".toList ∧
      (first :: rest).map Char.toLower ≠ "infinity".toList ∧
      (first :: rest).map Char.toLower ≠ "nan".toList := by
    rw [List.map_cons, lower]
    refine ⟨?_, ?_, ?_⟩ <;>
      exact fun same => ne_of_isDigit digit (by decide) (List.cons.inj same).1
  have bare := splitSign_of_isDigit digit rest
  refine ⟨?_, ?_⟩
  · simp only [Numeral.ofChars?, bare, unnamed.1, unnamed.2.1, unnamed.2.2,
      decide_false, Bool.or_self, Bool.false_eq_true, if_false]
  · simp only [Numeral.ofChars?, splitSign, unnamed.1, unnamed.2.1, unnamed.2.2,
      decide_false, Bool.or_self, Bool.false_eq_true, if_false]

/-- The text with a minus sign in front, if the sign is that. -/
def withSign (sign : Sign) (text : List Char) : List Char :=
  match sign with
  | .negative => '-' :: text
  | .positive => text

/-- A text without blanks is read as the numeral that it is. -/
theorem readText?_of_visible {first : Char} {rest : List Char}
    (visible : ∀ character ∈ first :: rest, Text.isBlank character = false) :
    readText? (String.ofList (first :: rest)) = readNumeral? (first :: rest) := by
  rw [readText?, String.toList_ofList, Text.trimChars_of_visible visible]

/-- Digits and what follows them are read with the sign that stands in front. -/
theorem readText?_withSign (sign : Sign) {digits rest : List Char} {numeral : Numeral}
    (some' : digits ≠ []) (known : AllDigits digits)
    (visible : ∀ character ∈ rest, Text.isBlank character = false)
    (read : unsigned? (sign == .negative) (digits ++ rest) = some numeral) :
    readText? (String.ofList (withSign sign (digits ++ rest))) = some numeral.toFloat := by
  obtain ⟨first, more, rfl⟩ := List.exists_cons_of_ne_nil some'
  have all : ∀ character ∈ first :: (more ++ rest), Text.isBlank character = false :=
    List.forall_mem_append.mpr
      ⟨fun character known' => Text.not_blank_of_isDigit (known character known'), visible⟩
  have parsed := ofChars?_of_digit (more ++ rest) (known first List.mem_cons_self)
  rw [List.cons_append] at read ⊢
  cases sign with
  | positive =>
      rw [withSign, readText?_of_visible all, readNumeral?, parsed.1]
      exact congrArg (Option.map Numeral.toFloat) read
  | negative =>
      have all' : ∀ character ∈ '-' :: first :: (more ++ rest), Text.isBlank character = false :=
        List.forall_mem_cons.mpr ⟨by decide +kernel, all⟩
      rw [withSign, readText?_of_visible all', readNumeral?, parsed.2]
      exact congrArg (Option.map Numeral.toFloat) read

/-- A run of digits is read as the whole number they make. -/
theorem readText?_whole (sign : Sign) {digits : List Char} (some' : digits ≠ [])
    (known : AllDigits digits) :
    readText? (String.ofList (withSign sign digits)) =
      some (Numeral.finite (sign == .negative) (natOfDigits digits) 0).toFloat := by
  have read := unsigned?_whole (sign == .negative) some' known
  rw [← List.append_nil digits] at read ⊢
  exact readText?_withSign sign some' known (by simp) (by simpa using read)

/-- Digits with a point are read as the number they make, with the point moved. -/
theorem readText?_point (sign : Sign) {digits fraction : List Char} (some' : digits ≠ [])
    (known : AllDigits digits) (known' : AllDigits fraction) :
    readText? (String.ofList (withSign sign (digits ++ '.' :: fraction))) =
      some (Numeral.finite (sign == .negative) (natOfDigits (digits ++ fraction))
        (-fraction.length)).toFloat :=
  readText?_withSign sign some' known
    (List.forall_mem_cons.mpr ⟨by decide +kernel,
      fun character inside => Text.not_blank_of_isDigit (known' character inside)⟩)
    (unsigned?_point (sign == .negative) some' known known')

/-! ## Positional notation -/

/-- The value of some decimal digits with a power of ten. -/
def decimalValue (digits : Nat) (exponent : Int) : ℚ :=
  digits * 10 ^ exponent

/-- The number that a decimal is. -/
def Digits.value (decimal : Digits) : ℚ :=
  decimalValue decimal.digits (decimal.point - digitCount decimal.digits)

/-- Zeros behind the digits raise the number by a power of ten. -/
theorem decimalValue_shift (digits zeros : Nat) (exponent : Int) :
    decimalValue (10 ^ zeros * digits) exponent = decimalValue digits (exponent + zeros) := by
  rw [decimalValue, decimalValue, zpow_add₀ (by norm_num), zpow_natCast]
  push_cast
  ring

/-- The digits of a number are the significant ones and some zeros. -/
theorem toDigits_eq_significant (decimal : Digits) :
    ∃ zeros, Nat.toDigits 10 decimal.digits = decimal.significant ++ List.replicate zeros '0' := by
  generalize reversed : (Nat.toDigits 10 decimal.digits).reverse = digits
  have cut := List.takeWhile_append_dropWhile (p := (· == '0')) (l := digits)
  have zeros : digits.takeWhile (· == '0') =
      List.replicate (digits.takeWhile (· == '0')).length '0' :=
    List.eq_replicate_of_mem fun character known => by
      simpa using List.mem_takeWhile_imp known
  refine ⟨(digits.takeWhile (· == '0')).length, ?_⟩
  rw [Digits.significant, reversed, ← List.reverse_inj, reversed, List.reverse_append,
    List.reverse_reverse, List.reverse_replicate, ← zeros, cut]

/--
The significant digits of a positive decimal are some, and with the point in its place they
are the decimal.
-/
theorem significant_spec (decimal : Digits) (positive : 0 < decimal.digits) :
    decimal.significant ≠ [] ∧ AllDigits decimal.significant ∧
      0 < natOfDigits decimal.significant ∧
      decimalValue (natOfDigits decimal.significant)
        (decimal.point - decimal.significant.length) = decimal.value := by
  obtain ⟨zeros, written⟩ := toDigits_eq_significant decimal
  have number := natOfDigits_toDigits decimal.digits
  have length := congrArg List.length written
  rw [written, natOfDigits_append, natOfDigits_zeros, Nat.add_zero, List.length_replicate] at number
  rw [List.length_append, List.length_replicate] at length
  have some' : 0 < natOfDigits decimal.significant := by
    refine Nat.pos_of_ne_zero fun none => ?_
    rw [none, Nat.mul_zero] at number
    omega
  refine ⟨?_, ?_, some', ?_⟩
  · intro empty
    rw [empty] at some'
    exact absurd some' (by decide)
  · refine (allDigits_toDigits decimal.digits).sublist ?_
    rw [written]
    exact List.sublist_append_left _ _
  · rw [Digits.value, digitCount, length]
    conv_rhs => rw [← number, decimalValue_shift]
    congr 1
    push_cast
    ring

section Places

/-! ## The three places of the point -/

variable {digits : List Char} {place : Int}

/-- Whether a text is read as a positive numeral with a sign and a value. -/
def ReadsAs (sign : Sign) (text : List Char) (value : ℚ) : Prop :=
  ∃ size power, 0 < size ∧ decimalValue size power = value ∧
    readText? (String.ofList (withSign sign text)) =
      some (Numeral.finite (sign == .negative) size power).toFloat

/-- Digits behind a point and zeros are read as they are. -/
theorem readsAs_fraction (sign : Sign) (known : AllDigits digits) (size : 0 < natOfDigits digits)
    (before : place ≤ 0) :
    ReadsAs sign ('0' :: '.' :: (List.replicate (-place).toNat '0' ++ digits))
      (decimalValue (natOfDigits digits) (place - digits.length)) := by
  have number : natOfDigits (['0'] ++ (List.replicate (-place).toNat '0' ++ digits)) =
      natOfDigits digits :=
    (natOfDigits_zeros_append 1 _).trans (natOfDigits_zeros_append _ digits)
  have zero : AllDigits ['0'] := allDigits_zeros 1
  have read := readText?_point sign (List.cons_ne_nil '0' []) zero
    ((allDigits_zeros (-place).toNat).append known)
  rw [number] at read
  refine ⟨_, _, size, ?_, read⟩
  rw [List.length_append, List.length_replicate]
  congr 1
  omega

/-- Digits before zeros are read as they are. -/
theorem readsAs_padded (sign : Sign) (some' : digits ≠ []) (known : AllDigits digits)
    (size : 0 < natOfDigits digits) (behind : digits.length ≤ place) :
    ReadsAs sign (digits ++ List.replicate (place.toNat - digits.length) '0')
      (decimalValue (natOfDigits digits) (place - digits.length)) := by
  have number := natOfDigits_append digits (List.replicate (place.toNat - digits.length) '0')
  rw [natOfDigits_zeros, Nat.add_zero, List.length_replicate] at number
  refine ⟨_, _, ?_, ?_, readText?_whole sign (List.append_ne_nil_of_left_ne_nil some' _)
    (known.append (allDigits_zeros _))⟩
  · rw [number]
    positivity
  · rw [number, decimalValue_shift]
    congr 1
    omega

/-- Digits around a point are read as they are. -/
theorem readsAs_pointed (sign : Sign) (known : AllDigits digits) (size : 0 < natOfDigits digits)
    (after : 0 < place) (within : place < digits.length) :
    ReadsAs sign (digits.take place.toNat ++ '.' :: digits.drop place.toNat)
      (decimalValue (natOfDigits digits) (place - digits.length)) := by
  have number : digits.take place.toNat ++ digits.drop place.toNat = digits :=
    List.take_append_drop _ digits
  have some' : digits.take place.toNat ≠ [] := by
    rw [Ne, List.take_eq_nil_iff, not_or, ← List.length_eq_zero_iff]
    omega
  refine ⟨_, _, ?_, ?_, readText?_point sign some' (known.sublist (List.take_sublist _ _))
    (known.sublist (List.drop_sublist _ _))⟩
  · rwa [number]
  · rw [number, List.length_drop]
    congr 1
    omega

end Places

/-- A decimal in positional notation is read as a numeral with the value of the decimal. -/
theorem readsAs_positional (sign : Sign) (decimal : Digits) (positive : 0 < decimal.digits) :
    ReadsAs sign decimal.positional decimal.value := by
  obtain ⟨some', known, size, value⟩ := significant_spec decimal positive
  rw [← value]
  unfold Digits.positional
  dsimp only
  split
  · next before => exact readsAs_fraction sign known size before
  · split
    · next after behind => exact readsAs_padded sign some' known size (by omega)
    · next after within =>
      exact readsAs_pointed sign known size (Int.not_le.mp after) (by omega)

end Number
end PropertyBinding
