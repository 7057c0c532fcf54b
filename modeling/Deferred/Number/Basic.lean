import Deferred.Number.Fraction
import Deferred.Value

/-!
# Numbers

Truth values, whole numbers, floats and complex numbers are numbers, and numbers of all kinds go
together: they are compared exactly, and an operator makes them all of the widest kind among them.
-/

namespace Deferred

/-- A number of any kind. -/
inductive Number where
  | whole (value : Int)
  | float (value : Float)
  | complex (real imaginary : Float)
  deriving Inhabited

namespace Number

/-- The number that a value is. -/
def ofValue? : Value → Option Number
  | .bool value => some (.whole (if value then 1 else 0))
  | .int value _ => some (.whole value)
  | .float value _ => some (.float value)
  | .complex real imaginary _ => some (.complex real imaginary)
  | _ => none

/-- A number as a value, made apart from all others. -/
def toValue (number : Number) (mark : Mark) : Value :=
  match number with
  | whole value => .int value mark
  | float value => .float value mark
  | complex real imaginary => .complex real imaginary mark

/-- The whole number that a value counts as. -/
def wholeOf? (value : Value) : Option Int :=
  match ofValue? value with
  | some (.whole count) => some count
  | _ => none

/-- Is a float below zero? -/
def isNegative (value : Float) : Bool := value < 0

/-- How two numbers compare; what is no number at all compares with nothing, and complex numbers
have no order. -/
def order? : Number → Number → Option Ordering
  | whole a, whole b => some (compare a b)
  | whole a, float b =>
    match BinaryFraction.ofFloat? b with
    | some fraction => some (fraction.compareInt a)
    | none => if b.isNaN then none else some (if isNegative b then .gt else .lt)
  | float a, whole b =>
    match BinaryFraction.ofFloat? a with
    | some fraction => some (fraction.compareInt b).swap
    | none => if a.isNaN then none else some (if isNegative a then .lt else .gt)
  | float a, float b =>
    if a < b then some .lt else if a == b then some .eq else if b < a then some .gt else none
  | _, _ => none

/-- Are two numbers equal?  A complex number equals its real part when the other part is zero. -/
def equal : Number → Number → Bool
  | complex a b, complex c d => a == c && b == d
  | complex a b, other => b == 0 && order? (.float a) other == some .eq
  | other, complex a b => b == 0 && order? (.float a) other == some .eq
  | a, b => order? a b == some .eq

/-- Does a number count as true? -/
def isTrue : Number → Bool
  | whole value => value ≠ 0
  | float value => !(value == 0)
  | complex real imaginary => !(real == 0 && imaginary == 0)

/-- A number as a complex one, if a whole number is not too large for that. -/
def parts? : Number → Option (Float × Float)
  | whole value =>
    let float := Float.ofInt value
    if float.isFinite then some (float, 0.0) else none
  | float value => some (value, 0.0)
  | complex real imaginary => some (real, imaginary)

/-- A number as a float, if it is not complex; `none` where a whole number is too large. -/
def float? : Number → Option Float
  | whole value =>
    let float := Float.ofInt value
    if float.isFinite then some float else none
  | float value => some value
  | complex _ _ => none

end Number

end Deferred
