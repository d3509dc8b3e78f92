namespace PropertyBinding
namespace Number

open Float.Model

/-!
# The exact value of a double

A finite double is a sign, a natural significand and a power of two.  The
operations below work on those parts in exact integer arithmetic and round at
most once, so each is described by the value it computes and not by the steps
of a processor.  The word of a double is put together from several of them.
-/

/-- The sign, significand and binary exponent of a double, or what it is instead. -/
def parts (number : Float) : UnpackedFloat :=
  number.toModel.unpack

/-- The double with the given parts, which must already fit the format. -/
def ofParts (value : UnpackedFloat) : Float :=
  .ofModel (.pack value)

/-- The value with its fraction dropped; a number that is not finite counts as zero. -/
def truncated (number : Float) : Int :=
  (parts number).toInt 0 0

/-- Whether a double is a finite whole number. -/
def isWhole (number : Float) : Bool :=
  match parts number with
  | .infinity _ | .notANumber => false
  | .zero _ => true
  | .finite _ significand exponent _ =>
      decide (0 ≤ exponent) || significand % (1 <<< (-exponent).toNat) == 0

/-- Whether a double is the zero that carries a minus sign. -/
def isNegativeZero (number : Float) : Bool :=
  match parts number with
  | .zero .negative => true
  | _ => false

/-- The word equal to an integer, if the integer is in range. -/
def wordOfInt? (value : Int) : Option Int32 :=
  if Int32.minValue.toInt ≤ value ∧ value ≤ Int32.maxValue.toInt then
    some (Int32.ofInt value)
  else
    none

/-- The word that stands for a double: the equal one, except that negative zero has none. -/
def word? (number : Float) : Option Int32 :=
  if isWhole number && !isNegativeZero number then wordOfInt? (truncated number) else none

/-- The double that equals a word. -/
def ofInt32 (word : Int32) : Float :=
  Float.ofInt word.toInt

/--
The remainder of a division that truncates, with the sign of the dividend.  It
is always exact: both operands are whole multiples of the smaller of their two
powers of two, and the remainder is a multiple of it that is no larger.
-/
def remainder (dividend divisor : Float) : Float :=
  match parts dividend, parts divisor with
  | .notANumber, _ | _, .notANumber | .infinity _, _ | _, .zero _ => ofParts .notANumber
  | _, .infinity _ | .zero _, _ => dividend
  | .finite sign significand exponent _, .finite _ significand' exponent' _ =>
      let scale := min exponent exponent'
      let rest := (significand <<< (exponent - scale).toNat)
        % (significand' <<< (exponent' - scale).toNat)
      if rest = 0 then
        ofParts (.zero sign)
      else
        ofParts (UnpackedFloat.round Format.binary64 sign rest scale)

/-- The double with its fraction dropped; the sign stays, also when nothing else does. -/
def trunc (number : Float) : Float :=
  match parts number with
  | .finite sign significand exponent _ =>
      let size := significand >>> (-exponent).toNat
      if 0 ≤ exponent then
        number
      else if size = 0 then
        ofParts (.zero sign)
      else
        ofParts (UnpackedFloat.round Format.binary64 sign size 0)
  | _ => number

/-- The remainder of a division that leaves nothing negative over. -/
def euclideanRemainder (dividend divisor : Float) : Float :=
  let rest := remainder dividend divisor
  if rest < 0 then rest + divisor.abs else rest

/-- The word nearest to a double after its fraction is dropped. -/
def saturated (number : Float) : Int32 :=
  (parts number).toInt32

/-- How many words there are. -/
def wordCount : Float := 4294967296

/-- The least number that is too large for a word. -/
def wordLimit : Float := 2147483648

/--
The word that the digits of a double before the point end in, in two's complement; a number
that is not finite counts as zero.
-/
def toInt32 (number : Float) : Int32 :=
  if number.isFinite then
    let rest := euclideanRemainder (trunc number) wordCount
    if wordLimit ≤ rest then saturated (rest - wordCount) else saturated rest
  else
    0

/-- The single-precision number nearest to a double, a tie going to the even neighbour. -/
def narrow (number : Float) : Float32 :=
  match parts number with
  | .finite sign significand exponent _ =>
      .ofModel (.pack (UnpackedFloat.round Format.binary32 sign significand exponent))
  | other => .ofModel (.pack other)

/-- The double that equals a single-precision number. -/
def widen (number : Float32) : Float :=
  match number.toModel.unpack with
  | .finite sign significand exponent _ =>
      ofParts (UnpackedFloat.round Format.binary64 sign significand exponent)
  | other => ofParts other

/-- A word that was found equals the integer it was found for. -/
theorem toInt_of_wordOfInt? {value : Int} {word : Int32} (found : wordOfInt? value = some word) :
    word.toInt = value := by
  unfold wordOfInt? at found
  split at found
  · next range =>
    simp only [Option.some.injEq] at found
    subst found
    exact Int32.toInt_ofInt_of_le range.1 (Int.lt_add_one_of_le range.2)
  · simp at found

end Number
end PropertyBinding
