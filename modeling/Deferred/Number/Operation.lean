import Deferred.Fault
import Deferred.Number.Basic
import Deferred.Operator

/-!
# Operators on numbers

What an operator makes of two numbers.  Whole numbers stay exact, a float makes the result a float,
and a complex number makes it complex.  Bits are those of a number in two's complement with as many
leading bits as needed.
-/

namespace Deferred.Number

open Deferred.Text (twoPow)

/-- What an operator makes of two numbers: one number, two, or a truth value. -/
inductive Outcome where
  | one (value : Number)
  | two (first second : Number)
  | truth (value : Bool)

/-- The outcome of an operator; `none` where it does not take such numbers. -/
abbrev Answer := Option (Except Fault Outcome)

/-- An answer that is one number. -/
def answer (number : Number) : Answer := some (.ok (.one number))

/-- An answer that is a fault of a kind of its own. -/
def refuse (kind words : String) : Answer := some (.error (.foreign kind words))

/-- A division by zero, in words. -/
def noQuotient (words : String) : Answer := refuse "ZeroDivisionError" words

/-! ## Whole numbers -/

/-- A whole number raised to a power. -/
def wholePower (base : Int) (exponent : Nat) : Int :=
  let size : Int := Nat.pow base.natAbs exponent
  if base < 0 && exponent % 2 = 1 then -size else size

/-- Combine the bits of two whole numbers. -/
def combineBits (combine : Nat → Nat → Nat) (first second : Int) : Int :=
  let width := max first.natAbs.log2 second.natAbs.log2 + 2
  let window : Int := twoPow width
  Int.bmod (combine (first.fmod window).toNat (second.fmod window).toNat : Nat) (twoPow width)

/-- A whole number with its bits moved to the right. -/
def shiftedRight (value count : Int) : Int :=
  if (value.natAbs.log2 : Int) < count then if value < 0 then -1 else 0
  else value.fdiv (twoPow count.toNat)

/-- The float that is the exact quotient of two whole numbers, rounded once. -/
def wholeQuotient (first second : Int) : Answer :=
  if second = 0 then noQuotient "division by zero"
  else
    let numerator := if second < 0 then -first else first
    let quotient := nearestFloat numerator second.natAbs
    if quotient.isFinite then answer (.float quotient)
    else refuse "OverflowError" "integer division result too large for a float"

/-- Take a shift by a count that is not negative. -/
def shift (count : Int) (shifted : Int) : Answer :=
  if count < 0 then some (.error (.badValue "negative shift count")) else answer (.whole shifted)

/-! ## Floats and complex numbers -/

/-- The product of two complex numbers. -/
def complexProduct (first second : Float × Float) : Float × Float :=
  (first.1 * second.1 - first.2 * second.2, first.1 * second.2 + first.2 * second.1)

/-- The quotient of two complex numbers. -/
def complexQuotient (a b c d : Float) : Answer :=
  if c == 0 && d == 0 then noQuotient "complex division by zero"
  else if d.abs ≤ c.abs then
    let ratio := d / c
    let scale := c + d * ratio
    answer (.complex ((a + b * ratio) / scale) ((b - a * ratio) / scale))
  else
    let ratio := c / d
    let scale := c * ratio + d
    answer (.complex ((a * ratio + b) / scale) ((b * ratio - a) / scale))

/-- A complex number multiplied by itself as often as an exponent says, which has at most `bits`
bits; `square` is its power by the bit that is looked at. -/
def repeatedProduct : Nat → Nat → Float × Float → Float × Float → Float × Float
  | 0, _, _, sofar => sofar
  | bits + 1, exponent, square, sofar =>
    if exponent = 0 then sofar
    else
      repeatedProduct bits (exponent / 2) (complexProduct square square)
        (if exponent % 2 = 1 then complexProduct sofar square else sofar)

/-- A power that is complex, if it is finite. -/
def boundedPower (real imaginary : Float) : Answer :=
  if real.isInf || imaginary.isInf then refuse "OverflowError" "complex exponentiation"
  else answer (.complex real imaginary)

/-- A complex number raised to a power.  A small whole exponent is a number of products. -/
def complexPower (a b c d : Float) : Answer :=
  let products (count : Nat) : Float × Float := repeatedProduct 8 count (a, b) (1.0, 0.0)
  let count := c.abs.toUInt64.toNat
  if d == 0 && c == c.floor && c.abs ≤ 100 && (0 ≤ c || !(a == 0 && b == 0)) then
    let (real, imaginary) := products count
    if 0 < c then boundedPower real imaginary
    else if c == 0 then answer (.complex 1.0 0.0)
    else complexQuotient 1.0 0.0 real imaginary
  else if c == 0 && d == 0 then answer (.complex 1.0 0.0)
  else if a == 0 && b == 0 then
    if d == 0 && !(c < 0) then answer (.complex 0.0 0.0)
    else noQuotient "0.0 to a negative or complex power"
  else
    let size := if b == 0 then a.abs else if a == 0 then b.abs else (a * a + b * b).sqrt
    let angle := Float.atan2 b a
    let length := size.pow c
    let length := if d == 0 then length else length * Float.exp (-angle * d)
    let phase := if d == 0 then angle * c else angle * c + d * size.log
    boundedPower (length * phase.cos) (length * phase.sin)

/-- A float raised to a power. -/
def floatPower (base exponent : Float) : Answer :=
  if base == 0 && exponent < 0 then noQuotient "0.0 cannot be raised to a negative power"
  else if base < 0 && base.isFinite && exponent.isFinite && !(exponent.floor == exponent) then
    complexPower base 0.0 exponent 0.0
  else
    let power := base.pow exponent
    if base.isFinite && exponent.isFinite && !power.isFinite then
      refuse "OverflowError" "(34, 'Numerical result out of range')"
    else answer (.float power)

/-! ## All numbers -/

/-- An operator on two whole numbers. -/
def onWholes (operator : BinaryOperator) (a b : Int) : Answer :=
  match operator with
  | .add => answer (.whole (a + b))
  | .subtract => answer (.whole (a - b))
  | .multiply => answer (.whole (a * b))
  | .divide => wholeQuotient a b
  | .floorDivide =>
    if b = 0 then noQuotient "integer division or modulo by zero" else answer (.whole (a.fdiv b))
  | .remainder =>
    if b = 0 then noQuotient "integer modulo by zero" else answer (.whole (a.fmod b))
  | .divideWithRemainder =>
    if b = 0 then noQuotient "integer division or modulo by zero"
    else some (.ok (.two (.whole (a.fdiv b)) (.whole (a.fmod b))))
  | .power =>
    if 0 ≤ b then answer (.whole (wholePower a b.toNat))
    else floatPower (Float.ofInt a) (Float.ofInt b)
  | .shiftLeft => shift b (a * twoPow b.toNat)
  | .shiftRight => shift b (shiftedRight a b)
  | .both => answer (.whole (combineBits Nat.land a b))
  | .either => answer (.whole (combineBits Nat.lor a b))
  | .differing => answer (.whole (combineBits Nat.xor a b))
  | _ => none

/-- An operator on two floats. -/
def onFloats (operator : BinaryOperator) (a b : Float) : Answer :=
  match operator with
  | .add => answer (.float (a + b))
  | .subtract => answer (.float (a - b))
  | .multiply => answer (.float (a * b))
  | .divide => if b == 0 then noQuotient "float division by zero" else answer (.float (a / b))
  | .floorDivide =>
    if b == 0 then noQuotient "float floor division by zero"
    else answer (.float (floatDivision a b).1)
  | .remainder =>
    if b == 0 then noQuotient "float modulo" else answer (.float (floatDivision a b).2)
  | .divideWithRemainder =>
    if b == 0 then noQuotient "float divmod()"
    else
      let (quotient, rest) := floatDivision a b
      some (.ok (.two (.float quotient) (.float rest)))
  | .power => floatPower a b
  | _ => none

/-- An operator on two complex numbers. -/
def onComplex (operator : BinaryOperator) (a b c d : Float) : Answer :=
  match operator with
  | .add => answer (.complex (a + c) (b + d))
  | .subtract => answer (.complex (a - c) (b - d))
  | .multiply => answer (.complex (a * c - b * d) (a * d + b * c))
  | .divide => complexQuotient a b c d
  | .power => complexPower a b c d
  | _ => none

/-- The fault of a whole number that is too large to be taken for a float. -/
def orTooLarge (operator : BinaryOperator) (action : Answer) : Answer :=
  if [BinaryOperator.shiftLeft, .shiftRight, .both, .either, .differing].contains operator then none
  else action

/-- What a comparison makes of two numbers. -/
def compared (operator : BinaryOperator) (a b : Number) : Answer :=
  match operator, a, b with
  | .equal, a, b => some (.ok (.truth (equal a b)))
  | .unequal, a, b => some (.ok (.truth !(equal a b)))
  | _, .complex _ _, _ => none
  | _, _, .complex _ _ => none
  | operator, a, b =>
    some (.ok (.truth ((order? a b).map operator.holds |>.getD false)))

/-- An operator on two numbers. -/
def apply (operator : BinaryOperator) (first second : Number) : Answer :=
  if operator.compares then compared operator first second
  else
    match first, second with
    | .whole a, .whole b => onWholes operator a b
    | .complex a b, second =>
      orTooLarge operator (match second.parts? with
        | some (c, d) => onComplex operator a b c d
        | none => some (.error .tooLarge))
    | first, .complex c d =>
      orTooLarge operator (match first.parts? with
        | some (a, b) => onComplex operator a b c d
        | none => some (.error .tooLarge))
    | first, second =>
      orTooLarge operator (match first.float?, second.float? with
        | some a, some b => onFloats operator a b
        | _, _ => some (.error .tooLarge))

/-! ## Powers with a modulus -/

/-- A whole number raised to a power, of which what is left by a modulus is kept; `bits` bounds the
bits of the exponent. -/
def powerModulo (modulus : Nat) : Nat → Nat → Nat → Nat
  | 0, _, _ => 1 % modulus
  | bits + 1, base, exponent =>
    if exponent = 0 then 1 % modulus
    else
      let half := powerModulo modulus bits (base * base % modulus) (exponent / 2)
      if exponent % 2 = 1 then half * base % modulus else half

/-- The coefficients by which two numbers add up to what they share: only that of the first. -/
def inverseStep : Nat → Int → Int → Int → Int → Int × Int
  | 0, shared, _, factor, _ => (shared, factor)
  | bound + 1, shared, rest, factor, next =>
    if rest = 0 then (shared, factor)
    else
      let quotient := shared.fdiv rest
      inverseStep bound rest (shared - quotient * rest) next (factor - quotient * next)

/-- A whole number raised to a power, of which what is left by a modulus is kept. -/
def moduloPower (base exponent modulus : Int) : Except Fault Int :=
  if modulus = 0 then .error (.badValue "pow() 3rd argument cannot be 0")
  else
    let size := modulus.natAbs
    let settled (rest : Nat) : Int := (rest : Int).fmod modulus
    let raise (base : Int) (exponent : Nat) : Int :=
      settled (powerModulo size (exponent.log2 + 1) (base.fmod size).toNat exponent)
    if 0 ≤ exponent then .ok (raise base exponent.toNat)
    else
      let (shared, factor) := inverseStep (2 * size.log2 + 10) (base.fmod size) size 1 0
      if shared.natAbs = 1 then .ok (raise (factor * shared) exponent.natAbs)
      else .error (.badValue "base is not invertible for the given modulus")

end Deferred.Number
