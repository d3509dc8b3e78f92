namespace PropertyBinding
namespace Number

/-!
# The shortest decimal of a binary number

A double stands for every real number that rounds to it.  Among the decimals in
that interval this module chooses one with the fewest digits, and of those the
nearest to the double itself.

The value is a fraction `numerator / denominator`, and the interval reaches
`below` and `above` it in the same denominator.  On the grid of decimals with a
given number of digits only the two neighbours of the value need testing: when
any point of a grid lies in the interval, so does one of them.
-/

/-- A positive decimal: `0.d₁d₂…` times `10 ^ point`, with `digits` written as one number. -/
structure Digits where
  digits : Nat
  point : Int
deriving Repr, DecidableEq

/-- The interval of reals that round to a positive binary number. -/
structure Interval where
  /-- The number itself, over `denominator`. -/
  numerator : Nat
  denominator : Nat
  /-- How far the interval reaches down, over `denominator`. -/
  below : Nat
  /-- How far the interval reaches up, over `denominator`. -/
  above : Nat
  /-- Whether the two ends round to the number as well. -/
  closed : Bool
deriving Repr, DecidableEq

/-- How many decimal digits a natural number is written with. -/
def digitCount (number : Nat) : Nat :=
  (Nat.toDigits 10 number).length

/--
The interval around `significand * 2 ^ exponent`, in quarters of the last binary
place.  Below a power of two the next number is half as far away, and the ends
belong to the number with the even significand.
-/
def Interval.ofBinary (significand : Nat) (exponent : Int) : Interval :=
  let quarter := exponent - 2
  let scale := 1 <<< quarter.toNat
  { numerator := 4 * significand * scale
    denominator := 1 <<< (-quarter).toNat
    below := (if significand = 1 <<< 52 then 1 else 2) * scale
    above := 2 * scale
    closed := significand % 2 = 0 }

/-- The power of ten just above the number: `10 ^ (p - 1) ≤ number < 10 ^ p`. -/
def Interval.point (interval : Interval) : Int :=
  if interval.denominator ≤ interval.numerator then
    digitCount (interval.numerator / interval.denominator)
  else
    1 - digitCount ((interval.denominator + interval.numerator - 1) / interval.numerator - 1)

/--
The neighbour of the number with `count` digits that lies in the interval, if
there is one.  Of two such neighbours the nearer is taken and a tie goes up.
-/
def Interval.onGrid? (interval : Interval) (count : Nat) : Option Digits :=
  let unit := interval.point - count
  let spread := Nat.pow 10 (-unit).toNat
  let step := interval.denominator * Nat.pow 10 unit.toNat
  let low := interval.numerator * spread / step
  let rest := interval.numerator * spread % step
  let reaches (distance margin : Nat) : Bool :=
    if interval.closed then distance ≤ margin else distance < margin
  let lowFits := reaches rest (interval.below * spread)
  let highFits := reaches (step - rest) (interval.above * spread)
  if highFits && (!lowFits || decide (step ≤ 2 * rest)) then
    let high := low + 1
    some ⟨high, unit + digitCount high⟩
  else if lowFits then
    some ⟨low, interval.point⟩
  else
    none

/-- No double needs more than this many digits to be told from its neighbours. -/
def mostDigits : Nat := 17

/-- The decimal with the fewest digits in the interval, the nearest one of its length. -/
def Interval.shortest (interval : Interval) : Digits :=
  ((List.range mostDigits).findSome? fun count => interval.onGrid? (count + 1)).getD
    ⟨interval.numerator / interval.denominator, interval.point⟩

/-- The significant digits as text, without the zeros at the end. -/
def Digits.significant (decimal : Digits) : List Char :=
  ((Nat.toDigits 10 decimal.digits).reverse.dropWhile (· == '0')).reverse

/-- The decimal in positional notation, with a point only where there is a fraction. -/
def Digits.positional (decimal : Digits) : List Char :=
  let digits := decimal.significant
  if decimal.point ≤ 0 then
    '0' :: '.' :: (List.replicate (-decimal.point).toNat '0' ++ digits)
  else if digits.length ≤ decimal.point.toNat then
    digits ++ List.replicate (decimal.point.toNat - digits.length) '0'
  else
    digits.take decimal.point.toNat ++ '.' :: digits.drop decimal.point.toNat

end Number
end PropertyBinding
