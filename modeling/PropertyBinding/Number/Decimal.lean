import PropertyBinding.Number.Exact
import PropertyBinding.Number.Shortest
import PropertyBinding.Text.Blank

namespace PropertyBinding
namespace Number

open Float.Model

/-!
# Numbers as decimal text

Scripts write a double in positional notation and read one in positional or
scientific notation.  Reading has two steps: `Numeral.ofChars?` takes the text
apart by the grammar

    numeral  := [sign] ("inf" | "infinity" | "nan" | decimal)
    decimal  := (digits ["." [digits]] | "." digits) [("e" | "E") [sign] digits]

and `Numeral.toFloat` rounds the exact value it denotes once.
-/

/-- What a numeral denotes: a whole number times a power of ten, or a special value. -/
inductive Numeral where
  | finite (negative : Bool) (digits : Nat) (exponent : Int)
  | infinite (negative : Bool)
  | notANumber
deriving Repr, DecidableEq

/-- The number written by a run of decimal digits. -/
def natOfDigits (digits : List Char) : Nat :=
  digits.foldl (fun total digit => total * 10 + (digit.toNat - '0'.toNat)) 0

/-- An optional sign and what follows it. -/
def splitSign : List Char → Bool × List Char
  | '-' :: rest => (true, rest)
  | '+' :: rest => (false, rest)
  | text => (false, text)

/-- The exponent at the end of a numeral; nothing at all stands for zero. -/
def exponent? : List Char → Option Int
  | [] => some 0
  | mark :: rest =>
      if mark = 'e' || mark = 'E' then
        let (negative, digits) := splitSign rest
        if !digits.isEmpty && digits.all Char.isDigit then
          let size : Int := natOfDigits digits
          some (if negative then -size else size)
        else
          none
      else
        none

/-- A numeral without a sign that is made of digits, a point and an exponent. -/
def unsigned? (negative : Bool) (text : List Char) : Option Numeral :=
  let whole := text.takeWhile Char.isDigit
  let afterWhole := text.dropWhile Char.isDigit
  let (fraction, rest) :=
    match afterWhole with
    | '.' :: tail => (tail.takeWhile Char.isDigit, tail.dropWhile Char.isDigit)
    | other => ([], other)
  if whole.isEmpty && fraction.isEmpty then
    none
  else
    (exponent? rest).map fun exponent =>
      .finite negative (natOfDigits (whole ++ fraction)) (exponent - fraction.length)

/-- Reads a whole text as a numeral.  The special names may have letters of either case. -/
def Numeral.ofChars? (text : List Char) : Option Numeral :=
  let (negative, rest) := splitSign text
  let name := rest.map Char.toLower
  if name = "inf".toList || name = "infinity".toList then
    some (.infinite negative)
  else if name = "nan".toList then
    some .notANumber
  else
    unsigned? negative rest

/-- The double nearest to what a numeral denotes. -/
def Numeral.toFloat : Numeral → Float
  | .finite negative digits exponent =>
      let size := Float.ofScientific digits (decide (exponent < 0)) exponent.natAbs
      if negative then -size else size
  | .infinite negative => ofParts (.infinity (if negative then .negative else .positive))
  | .notANumber => ofParts .notANumber

/-- Reads a numeral as a double. -/
def readNumeral? (text : List Char) : Option Float :=
  (Numeral.ofChars? text).map Numeral.toFloat

/-- Reads the number a string stands for: blanks around it do not count, and blank text is zero. -/
def readText? (text : String) : Option Float :=
  match Text.trimChars text.toList with
  | [] => some 0
  | trimmed => readNumeral? trimmed

/-- The largest and the smallest whole number that is written digit by digit. -/
def clampWhole (value : Int) : Int :=
  max Int64.minValue.toInt (min value Int64.maxValue.toInt)

/-- Whole numbers smaller than this in size are written as integers. -/
def integerLimit : Float := 1e21

/--
The text of a double.  A whole number below the limit is written as a 64-bit
integer, saturating at its ends, so both zeros are `0`; any other finite number
is written with its shortest digits.
-/
def toText (number : Float) : String :=
  match parts number with
  | .notANumber => "NaN"
  | .infinity .positive => "Infinity"
  | .infinity .negative => "-Infinity"
  | .zero _ => "0"
  | .finite sign significand exponent _ =>
      if isWhole number && decide (number.abs < integerLimit) then
        toString (clampWhole (truncated number))
      else
        let digits := (Interval.ofBinary significand exponent).shortest.positional
        match sign with
        | .negative => String.ofList ('-' :: digits)
        | .positive => String.ofList digits

/-- Reads an unsigned whole number below `2 ^ 64`, with an optional plus sign. -/
def readNatural? (text : String) : Option Nat :=
  let digits := match text.toList with
    | '+' :: rest => rest
    | other => other
  if !digits.isEmpty && digits.all Char.isDigit then
    let number := natOfDigits digits
    if number < UInt64.size then some number else none
  else
    none

end Number
end PropertyBinding
