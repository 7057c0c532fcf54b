import Deferred.Number.Fraction

/-!
# Floats with a number of digits

A float is written with a number of digits behind the point, with a number of significant digits, or
with as few digits as tell it apart.  The digits are those of the decimal nearest to the exact value
of the float; a half goes to the even neighbour.
-/

namespace Deferred

open Deferred.Text (twoPow tenPow)

/-- A decimal by its significant digits: the first stands for a power of ten. -/
structure Significant where
  digits : List Char
  exponent : Int
  deriving Repr, Inhabited

namespace BinaryFraction

/-- The power of ten of the first digit of a fraction that is not zero. -/
def leading (fraction : BinaryFraction) : Int :=
  let numerator := fraction.numerator.natAbs
  let guess : Int :=
    (Nat.toDigits 10 numerator).length - (Nat.toDigits 10 fraction.denominator).length
  let reached :=
    if 0 ≤ guess then decide (fraction.denominator * tenPow guess.toNat ≤ numerator)
    else decide (fraction.denominator ≤ numerator * tenPow (-guess).toNat)
  if reached then guess else guess - 1

/-- A number as a row of digits, with zeros in front until it is long enough. -/
def padded (width value : Nat) : List Char :=
  let digits := Nat.toDigits 10 value
  List.replicate (width - digits.length) '0' ++ digits

/-- The size of a fraction with a number of significant digits. -/
def significant (fraction : BinaryFraction) (count : Nat) : Significant :=
  if fraction.mantissa = 0 then { digits := List.replicate count '0', exponent := 0 }
  else
    let first := fraction.leading
    let value := (fraction.roundedAt ((count : Int) - 1 - first)).natAbs
    if tenPow count ≤ value then { digits := padded count (value / 10), exponent := first + 1 }
    else { digits := padded count value, exponent := first }

/-- The digits before the point and those behind it, for a number of places behind the point. -/
def fixed (fraction : BinaryFraction) (places : Nat) : List Char × List Char :=
  let digits := padded (places + 1) (fraction.roundedAt places).natAbs
  (digits.take (digits.length - places), digits.drop (digits.length - places))

end BinaryFraction

namespace Significant

/-- The fewest digits that tell the size of a finite float apart. -/
def shortest (number : Float) : Significant :=
  let magnitude := number.toBits.toNat % twoPow 63
  if magnitude = 0 then { digits := ['0'], exponent := 0 }
  else
    let (count, place) := Text.trimZeros 20 (Text.Dyadic.ofMagnitude magnitude).shortest
    let digits := Nat.toDigits 10 count
    { digits, exponent := place + digits.length - 1 }

/-- Digits without the zeros at their end. -/
def trimmed (number : Significant) : Significant :=
  { number with digits := (number.digits.reverse.dropWhile (· = '0')).reverse }

/-- How a point is set where no digits stand behind it. -/
inductive LonePoint where
  | dropped
  | kept
  | withZero
  deriving DecidableEq, Repr, Inhabited

/-- The point and the digits behind it. -/
def behindPoint (lone : LonePoint) (digits : List Char) : List Char :=
  match digits, lone with
  | [], .dropped => []
  | [], .kept => ['.']
  | [], .withZero => ['.', '0']
  | digits, _ => '.' :: digits

/-- The digits before the point, and what follows them, without an exponent. -/
def positional (number : Significant) (lone : LonePoint) : List Char × List Char :=
  if number.exponent < 0 then
    (['0'], behindPoint lone
      (List.replicate (-number.exponent - 1).toNat '0' ++ number.digits))
  else
    let size := (number.exponent + 1).toNat
    let digits := number.digits ++ List.replicate (size - number.digits.length) '0'
    (digits.take size, behindPoint lone (digits.drop size))

/-- An exponent, of at least two digits. -/
def exponentText (exponent : Int) : List Char :=
  'e' :: (if exponent < 0 then '-' else '+') :: BinaryFraction.padded 2 exponent.natAbs

/-- The first digit, and what follows it, with an exponent. -/
def withExponent (number : Significant) (lone : LonePoint) : List Char × List Char :=
  (number.digits.take 1,
    behindPoint lone (number.digits.drop 1) ++ exponentText number.exponent)

end Significant

end Deferred
