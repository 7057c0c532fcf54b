import Deferred.Text.Decimal

/-!
# Floats as exact fractions

A finite float is a whole number times a power of two.  Whatever is asked of its exact value is
computed on whole numbers: comparisons, remainders, the float nearest to a quotient.  A half is
rounded to the even neighbour.
-/

namespace Deferred

open Deferred.Text (twoPow tenPow)

/-- A finite binary fraction, exactly: a whole number times a power of two. -/
structure BinaryFraction where
  mantissa : Int
  exponent : Int

/-- The whole number nearest to a quotient with a positive denominator. -/
def nearestWhole (numerator : Int) (denominator : Nat) : Int :=
  let down := numerator.fdiv denominator
  let double := 2 * (numerator - down * denominator)
  if (denominator : Int) < double || (double = denominator && down % 2 ≠ 0) then down + 1 else down

/-- Rounding leaves a whole number as it is. -/
theorem nearestWhole_mul (whole : Int) (denominator : Nat) (h : 0 < denominator) :
    nearestWhole (whole * denominator) denominator = whole := by
  have nonzero : (denominator : Int) ≠ 0 := by omega
  have quotient : (whole * denominator).fdiv denominator = whole := Int.mul_fdiv_cancel _ nonzero
  simp [nearestWhole, quotient]
  omega

namespace BinaryFraction

/-- The fraction that a finite float is. -/
def ofFloat? (number : Float) : Option BinaryFraction :=
  let bits := number.toBits.toNat
  let magnitude := bits % twoPow 63
  let sign : Int := if bits / twoPow 63 = 1 then -1 else 1
  if magnitude / twoPow 52 = 2047 then none
  else
    let parts := Text.Dyadic.ofMagnitude magnitude
    some ⟨sign * parts.mantissa, parts.exponent⟩

/-- The numerator of a fraction over its denominator. -/
def numerator (fraction : BinaryFraction) : Int :=
  if 0 ≤ fraction.exponent then fraction.mantissa * twoPow fraction.exponent.toNat
  else fraction.mantissa

/-- A power of two that makes a fraction whole. -/
def denominator (fraction : BinaryFraction) : Nat :=
  if 0 ≤ fraction.exponent then 1 else twoPow (-fraction.exponent).toNat

/-- A fraction in lowest terms. -/
def lowest (fraction : BinaryFraction) : Int × Nat :=
  let common := Nat.gcd fraction.numerator.natAbs fraction.denominator
  (fraction.numerator / common, fraction.denominator / common)

/-- The whole part of a fraction. -/
def truncated (fraction : BinaryFraction) : Int :=
  fraction.numerator.tdiv fraction.denominator

/-- The largest whole number that does not exceed a fraction. -/
def floor (fraction : BinaryFraction) : Int := fraction.numerator.fdiv fraction.denominator

/-- The smallest whole number that a fraction does not exceed. -/
def ceiling (fraction : BinaryFraction) : Int :=
  -((-fraction.numerator).fdiv fraction.denominator)

/-- The whole number nearest to a fraction. -/
def rounded (fraction : BinaryFraction) : Int :=
  nearestWhole fraction.numerator fraction.denominator

/-- The whole number nearest to a fraction times a power of ten. -/
def roundedAt (fraction : BinaryFraction) (places : Int) : Int :=
  if 0 ≤ places then
    nearestWhole (fraction.numerator * tenPow places.toNat) fraction.denominator
  else nearestWhole fraction.numerator (fraction.denominator * tenPow (-places).toNat)

/-- A whole number compared with a fraction. -/
def compareInt (whole : Int) (fraction : BinaryFraction) : Ordering :=
  compare (whole * fraction.denominator) fraction.numerator

end BinaryFraction

/-! ## The float nearest to a quotient -/

/-- The bits of the float nearest to a positive quotient. -/
def nearestBits (numerator denominator : Nat) : Nat :=
  let guess : Int := (Nat.log2 numerator : Int) - Nat.log2 denominator
  let reached :=
    if 0 ≤ guess then decide (denominator * twoPow guess.toNat ≤ numerator)
    else decide (denominator ≤ numerator * twoPow (-guess).toNat)
  let leading := if reached then guess else guess - 1
  let unit := max (leading - 52) (-1074)
  let count :=
    if 0 ≤ unit then nearestWhole numerator (denominator * twoPow unit.toNat)
    else nearestWhole ((numerator * twoPow (-unit).toNat : Nat) : Int) denominator
  min (((unit + 1074) * twoPow 52 + count).toNat) (2047 * twoPow 52)

/-- The float nearest to a quotient with a positive denominator. -/
def nearestFloat (numerator : Int) (denominator : Nat) : Float :=
  if numerator = 0 then 0
  else
    let size := Float.ofBits (UInt64.ofNat (nearestBits numerator.natAbs denominator))
    if numerator < 0 then -size else size

/-- A float of the size of one and the sign of another. -/
def withSignOf (sign size : Float) : Float :=
  let negative := sign.toBits.toNat / twoPow 63 = 1
  if negative then -size.abs else size.abs

/-- What is left of a float when another is taken away from it as often as it can be.  The sign is
that of the first. -/
def floatRemainder (first second : Float) : Float :=
  match BinaryFraction.ofFloat? first, BinaryFraction.ofFloat? second with
  | some a, some b =>
    if b.mantissa = 0 then 0.0 / 0.0
    else
      let unit := min a.exponent b.exponent
      let scaled (fraction : BinaryFraction) : Nat :=
        fraction.mantissa.natAbs * twoPow (fraction.exponent - unit).toNat
      let rest := scaled a % scaled b
      withSignOf first
        (if 0 ≤ unit then nearestFloat (rest * twoPow unit.toNat : Nat) 1
        else nearestFloat (rest : Nat) (twoPow (-unit).toNat))
  | some _, none => if second.isNaN then second else first
  | none, _ => 0.0 / 0.0

/-- The whole quotient of two floats, the second not zero, and what is left.  What is left has the
sign of the second. -/
def floatDivision (first second : Float) : Float × Float :=
  let rest := floatRemainder first second
  let quotient := (first - rest) / second
  let (quotient, rest) :=
    if rest == 0 then (quotient, withSignOf second 0.0)
    else if (second < 0) = (rest < 0) then (quotient, rest)
    else (quotient - 1.0, rest + second)
  if quotient == 0 then (withSignOf (first / second) 0.0, rest)
  else
    let down := quotient.floor
    (if 0.5 < quotient - down then down + 1.0 else down, rest)

end Deferred
