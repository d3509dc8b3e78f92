import Mathlib
import PropertyBinding.Number.Decimal

namespace PropertyBinding
namespace Number

open Float.Model UnpackedFloat

/-!
# Plain numbers

Two numbers can be equal without being the same: the two zeros are.  The plain
form of a number has the zero without a sign in place of either, and so equal
numbers have one plain form.  Nothing that a conversion does to a number looks
further than at its plain form.

That rests on a fact about formats: a number is known by its parts, for the bit
pattern can be read off them.
-/

/-! ## Parts -/

/-- A double is known by its parts. -/
theorem eq_of_parts {left right : Float} (same : parts left = parts right) : left = right := by
  apply Float.toBits_inj.mp
  apply UInt64.toBitVec_inj.mp
  exact (unpack_inj_of_valid left.toModel.valid right.toModel.valid).mp same

/-- A single-precision number is known by its parts. -/
theorem eq_of_singleParts {left right : Float32}
    (same : left.toModel.unpack = right.toModel.unpack) : left = right := by
  apply Float32.toBits_inj.mp
  apply UInt32.toBitVec_inj.mp
  exact (unpack_inj_of_valid left.toModel.valid right.toModel.valid).mp same

/-- Numbers that compare as equal have the same parts, or both are zero. -/
theorem parts_of_beq {left right : UnpackedFloat} (equal : UnpackedFloat.beq left right = true) :
    left = right ∨ (∃ sign, left = .zero sign) ∧ ∃ sign, right = .zero sign := by
  rcases (beq_iff_ne_notANumber_and_eq left right).mp equal with
    ⟨-, -, same | ⟨zero, zero'⟩ | ⟨zero, zero'⟩⟩
  · exact .inl same
  · exact .inr ⟨⟨_, zero⟩, ⟨_, zero'⟩⟩
  · exact .inr ⟨⟨_, zero⟩, ⟨_, zero'⟩⟩

/-! ## Plain forms -/

/-- The zero with a sign. -/
def signedZero (sign : Sign) : Float :=
  ofParts (.zero sign)

/-- The zero with a sign, in single precision. -/
def signedZeroSingle (sign : Sign) : Float32 :=
  .ofModel (.pack (.zero sign))

/-- A double, with the zero without a minus sign for either zero. -/
def plain (number : Float) : Float :=
  match parts number with
  | .zero _ => signedZero .positive
  | _ => number

/-- A single-precision number, with the zero without a minus sign for either zero. -/
def plainSingle (number : Float32) : Float32 :=
  match number.toModel.unpack with
  | .zero _ => signedZeroSingle .positive
  | _ => number

theorem plain_cases (number : Float) :
    plain number = number ∨ number = signedZero .negative ∧ plain number = signedZero .positive := by
  unfold plain
  split
  · next sign zero =>
    have known : number = signedZero sign := by
      apply eq_of_parts
      rw [zero]
      cases sign <;> rfl
    cases sign with
    | positive => exact .inl known.symm
    | negative => exact .inr ⟨known, rfl⟩
  · exact .inl rfl

theorem plainSingle_cases (number : Float32) : plainSingle number = number ∨
    number = signedZeroSingle .negative ∧ plainSingle number = signedZeroSingle .positive := by
  unfold plainSingle
  split
  · next sign zero =>
    have known : number = signedZeroSingle sign := by
      apply eq_of_singleParts
      rw [zero]
      cases sign <;> rfl
    cases sign with
    | positive => exact .inl known.symm
    | negative => exact .inr ⟨known, rfl⟩
  · exact .inl rfl

/-- What does not tell the zeros apart sees the plain form of a number only. -/
theorem apply_plain {α : Type} (look : Float → α)
    (zeros : look (signedZero .negative) = look (signedZero .positive)) (number : Float) :
    look (plain number) = look number := by
  rcases plain_cases number with same | ⟨rfl, zero⟩
  · rw [same]
  · rw [zero, zeros]

theorem apply_plainSingle {α : Type} (look : Float32 → α)
    (zeros : look (signedZeroSingle .negative) = look (signedZeroSingle .positive))
    (number : Float32) : look (plainSingle number) = look number := by
  rcases plainSingle_cases number with same | ⟨rfl, zero⟩
  · rw [same]
  · rw [zero, zeros]

@[simp] theorem plain_plain (number : Float) : plain (plain number) = plain number :=
  apply_plain plain rfl number

@[simp] theorem plainSingle_plainSingle (number : Float32) :
    plainSingle (plainSingle number) = plainSingle number :=
  apply_plainSingle plainSingle rfl number

/-- Equal numbers have one plain form. -/
theorem plain_of_beq {left right : Float} (equal : (left == right) = true) :
    plain left = plain right := by
  rcases parts_of_beq equal with same | ⟨⟨sign, zero⟩, ⟨sign', zero'⟩⟩
  · rw [eq_of_parts same]
  · unfold plain parts
    rw [zero, zero']

theorem plainSingle_of_beq {left right : Float32} (equal : (left == right) = true) :
    plainSingle left = plainSingle right := by
  rcases parts_of_beq equal with same | ⟨⟨sign, zero⟩, ⟨sign', zero'⟩⟩
  · rw [eq_of_singleParts same]
  · unfold plainSingle
    rw [zero, zero']

/-- Numbers with one plain form are equal, if they are numbers. -/
theorem beq_of_plain {left right : Float} (same : plain left = plain right)
    (itself : (left == left) = true) : (left == right) = true := by
  rcases plain_cases left with whole | ⟨rfl, zero⟩
  · rcases plain_cases right with whole' | ⟨rfl, zero'⟩
    · rw [whole, whole'] at same
      exact same ▸ itself
    · rw [whole, zero'] at same
      subst same
      rfl
  · rcases plain_cases right with whole' | ⟨rfl, _⟩
    · rw [zero, whole'] at same
      subst same
      rfl
    · rfl

theorem beq_of_plainSingle {left right : Float32} (same : plainSingle left = plainSingle right)
    (itself : (left == left) = true) : (left == right) = true := by
  rcases plainSingle_cases left with whole | ⟨rfl, zero⟩
  · rcases plainSingle_cases right with whole' | ⟨rfl, zero'⟩
    · rw [whole, whole'] at same
      exact same ▸ itself
    · rw [whole, zero'] at same
      subst same
      rfl
  · rcases plainSingle_cases right with whole' | ⟨rfl, _⟩
    · rw [zero, whole'] at same
      subst same
      rfl
    · rfl

@[simp] theorem isWhole_plain (number : Float) : isWhole (plain number) = isWhole number :=
  apply_plain isWhole rfl number

@[simp] theorem toInt32_plain (number : Float) : toInt32 (plain number) = toInt32 number :=
  apply_plain toInt32 rfl number

@[simp] theorem toText_plain (number : Float) : toText (plain number) = toText number :=
  apply_plain toText rfl number

@[simp] theorem plain_narrow_plain (number : Float) :
    plainSingle (narrow (plain number)) = plainSingle (narrow number) :=
  apply_plain (fun number => plainSingle (narrow number)) rfl number

@[simp] theorem plain_widen_plain (number : Float32) :
    plain (widen (plainSingle number)) = plain (widen number) :=
  apply_plainSingle (fun number => plain (widen number)) rfl number

end Number
end PropertyBinding
