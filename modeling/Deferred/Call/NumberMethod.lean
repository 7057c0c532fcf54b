import Deferred.Call.OctetMethod
import Deferred.Number.Hexadecimal

/-!
# Methods of numbers

Numbers are taken apart into quotients and octets, and rounded to a number of places.
-/

namespace Deferred.Action

open Deferred.Text (twoPow tenPow)

/-! ## Rounding -/

/-- A whole number rounded at a place before its end; a half goes to the even neighbour. -/
def roundedWhole (number places : Int) : Int :=
  if 0 ≤ places then number
  else
    let unit := tenPow (-places).toNat
    nearestWhole number unit * unit

/-- A float rounded to a number of places; a half goes to the even neighbour. -/
def roundedFloat (number : Float) (places : Int) : Action Value := do
  match BinaryFraction.ofFloat? number with
  | none => fresh (.float number)
  | some fraction =>
    if number == 0 || 323 < places then fresh (.float number)
    else if places < -308 then fresh (.float (withSignOf number 0.0))
    else
      let count := (fraction.roundedAt places).natAbs
      let size :=
        if 0 ≤ places then nearestFloat count (tenPow places.toNat)
        else nearestFloat (count * tenPow (-places).toNat : Nat) 1
      if size.isFinite then fresh (.float (withSignOf number size))
      else fail (.foreign "OverflowError" "rounded value too large to represent")

/-- A number rounded: to a whole number, or to a number of places. -/
def roundedNumber (call : Caller) (number : Number) (places : Value) : Action Value := do
  match number, places with
  | .whole value, .absent => fresh (.int value)
  | .whole value, places => do
    let places ← wholeNumber call places
    fresh (.int (if places < -100000 then 0 else roundedWhole value places))
  | .float value, .absent => do
    match BinaryFraction.ofFloat? value with
    | some fraction => fresh (.int fraction.rounded)
    | none => fresh (.int (← truncated value))
  | .float value, places => do roundedFloat value (← wholeNumber call places)
  | .complex _ _, _ => fail (.misuse .operands)

/-! ## Octets -/

/-- The order in which octets of a number stand: is the low one first? -/
def lowFirst (order : Value) : Action Bool := do
  match ← nameArgument order with
  | "little" => return true
  | "big" => return false
  | _ => fail (.badValue "byteorder must be either 'little' or 'big'")

/-- A whole number as octets. -/
def numberOctets (call : Caller) (number : Int) (length order : Value) (isSigned : Bool) :
    Action Value := do
  let length ← sizeNumber call length
  let low ← lowFirst order
  let bits := 8 * length.toNat
  if length < 0 then fail (.badValue "length argument must be non-negative")
  else if number < 0 && !isSigned then
    fail (.foreign "OverflowError" "can't convert negative int to unsigned")
  else
    let fits := if isSigned then
        if bits = 0 then number = 0
        else -(twoPow (bits - 1) : Int) ≤ number && number < (twoPow (bits - 1) : Int)
      else number < (twoPow bits : Int)
    if fits then
      fresh (.octets (Text.Encoding.octetsOf low length.toNat
        (number.fmod (twoPow bits)).toNat))
    else fail (.foreign "OverflowError" "int too big to convert")

/-- The whole number that octets stand for. -/
def numberOfOctets (machine : Machine) (source order : Value) (isSigned : Bool) : Action Value := do
  let low ← lowFirst order
  let octets ← match (← store).octetsOf? source with
    | some octets => done octets
    | none => do
      if source.asText?.isSome then fail (.misuse .operands)
      octetsOfItems machine (.badValue "bytes must be in range(0, 256)") source
  let octets := if low then octets.reverse else octets
  let value : Nat := octets.foldl (fun sofar octet => 256 * sofar + octet.toNat) 0
  let bits := 8 * octets.length
  fresh (.int (if isSigned && bits ≠ 0 && twoPow (bits - 1) ≤ value then
    (value : Int) - twoPow bits else value))

/-! ## Methods -/

/-- How many bits a whole number has that are set. -/
def bitCount : Nat → Nat → Nat
  | 0, _ => 0
  | bound + 1, value => value % 2 + bitCount bound (value / 2)

/-- How many bits a natural number has. -/
def bitLength (value : Nat) : Nat := if value = 0 then 0 else value.log2 + 1

/-- The methods of a whole number; `none` for any other name. -/
def wholeMethod? (machine : Machine) (number : Int) (name : String) (arguments : List Value) :
    Option (Action Value) :=
  match name, arguments with
  | "bit_length", [] => some (fresh (.int (bitLength number.natAbs)))
  | "bit_count", [] => some (fresh (.int (bitCount (bitLength number.natAbs) number.natAbs)))
  | "as_integer_ratio", [] => some (fresh (.tuple [.ofInt number, .ofInt 1]))
  | "to_bytes", [length, order, isSigned] => some do
    numberOctets machine.call number length order (← truth machine isSigned)
  | "__invert__", [] => some (fresh (.int (-number - 1)))
  | "__index__", [] => some (fresh (.int number))
  | _, _ => none

/-- A float as a quotient of whole numbers. -/
def quotientOf (number : Float) : Action Value :=
  match BinaryFraction.ofFloat? number with
  | some fraction =>
    let (numerator, denominator) := fraction.lowest
    fresh (.tuple [.ofInt numerator, .ofInt denominator])
  | none =>
    if number.isNaN then fail (.badValue "cannot convert NaN to integer ratio")
    else fail (.foreign "OverflowError" "cannot convert Infinity to integer ratio")

/-- The methods of a float; `none` for any other name. -/
def floatMethod? (number : Float) (name : String) (arguments : List Value) :
    Option (Action Value) :=
  match name, arguments with
  | "is_integer", [] => some (return .bool (number.isFinite && number.floor == number))
  | "as_integer_ratio", [] => some (quotientOf number)
  | "hex", [] => some (fresh (.text (Number.Hexadecimal.text number)))
  | _, _ => none

/-- A whole number near a number, found by a way to round it. -/
def wholeNear (number : Number) (round : BinaryFraction → Int) : Action Value := do
  match number with
  | .whole value => fresh (.int value)
  | .float value =>
    match BinaryFraction.ofFloat? value with
    | some fraction => fresh (.int (round fraction))
    | none => fresh (.int (← truncated value))
  | .complex _ _ => fail (.misuse .operands)

/-- How far a complex number is from zero. -/
def complexSize (real imaginary : Float) : Action Value :=
  let size :=
    if real.isInf || imaginary.isInf then 1.0 / 0.0
    else
      let larger := max real.abs imaginary.abs
      let smaller := min real.abs imaginary.abs
      if larger == 0 then 0.0
      else if smaller == 0 then larger
      else
        let direct := (real * real + imaginary * imaginary).sqrt
        if direct.isFinite && 1e-150 < direct then direct
        else larger * (1.0 + (smaller / larger) * (smaller / larger)).sqrt
  if size.isInf && real.isFinite && imaginary.isFinite then
    fail (.foreign "OverflowError" "absolute value too large")
  else fresh (.float size)

/-- How far a number is from zero. -/
def sizeOfNumber (number : Number) : Action Value :=
  match number with
  | .whole value => fresh (.int value.natAbs)
  | .float value => fresh (.float value.abs)
  | .complex real imaginary => complexSize real imaginary

/-- The special methods of a number that stand for no operator; `none` for any other name. -/
def numberSpecial? (call : Caller) (number : Number) (name : String)
    (arguments : List Value) : Option (Action Value) :=
  match name, arguments with
  | "conjugate", [] => some (match number with
    | .complex real imaginary => fresh (.complex real (-imaginary))
    | number => fresh number.toValue)
  | "__abs__", [] => some (sizeOfNumber number)
  | "__neg__", [] => some (match number with
    | .whole value => fresh (.int (-value))
    | .float value => fresh (.float (-value))
    | .complex real imaginary => fresh (.complex (-real) (-imaginary)))
  | "__pos__", [] => some (fresh number.toValue)
  | "__bool__", [] => some (return .bool number.isTrue)
  | "__int__", [] => some (wholeNear number BinaryFraction.truncated)
  | "__trunc__", [] => some (wholeNear number BinaryFraction.truncated)
  | "__floor__", [] => some (wholeNear number BinaryFraction.floor)
  | "__ceil__", [] => some (wholeNear number BinaryFraction.ceiling)
  | "__float__", [] => some do
    let value ← numberToFloat number
    fresh (.float value)
  | "__complex__", [] => some (fresh number.toValue)
  | "__round__", [] => some (roundedNumber call number .absent)
  | "__round__", [places] => some (match number, places with
    | .whole _, .absent => fail (.misuse .operands)
    | number, places => roundedNumber call number places)
  | "__getnewargs__", [] => some (match number with
    | .complex real imaginary => fresh (.tuple [.float real 0, .float imaginary 0])
    | number => do
      let value ← fresh number.toValue
      fresh (.tuple [value]))
  | _, _ => none

/-- The methods of a number; `none` for any other name. -/
def numberMethod? (machine : Machine) (number : Number) (name : String)
    (arguments : List Value) : Option (Action Value) :=
  let own := match number with
    | .whole value => wholeMethod? machine value name arguments
    | .float value => floatMethod? value name arguments
    | .complex _ _ => none
  own.or (numberSpecial? machine.call number name arguments)

end Deferred.Action
