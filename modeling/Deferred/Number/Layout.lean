import Deferred.Fault
import Deferred.Number.Basic
import Deferred.Number.Places
import Deferred.Text.Layout

/-!
# Numbers in fields

Whole numbers are written in one of four bases or as the character they stand for, floats with or
without an exponent, and complex numbers as two floats.
-/

namespace Deferred.Number

open Deferred.Text (Layout)

/-- A layout error as a fault. -/
def orBadValue {α : Type} : Except String α → Except Fault α
  | .ok value => .ok value
  | .error words => .error (.badValue words)

/-! ## Floats -/

/-- Upper-case letters where a form asks for them. -/
def casedFor (form : Char) (letters : List Char) : List Char :=
  if form.isUpper then letters.map Char.toUpper else letters

/-- The digits of the size of a finite float, and what follows them, in a form. -/
def floatParts (layout : Layout) (fraction : BinaryFraction) (number : Float) :
    List Char × List Char :=
  let lone := if layout.alternate then Significant.LonePoint.kept else .dropped
  let general (precision : Nat) (lone : Significant.LonePoint) (usual : Bool) :
      List Char × List Char :=
    let count := max precision 1
    let digits := fraction.significant count
    let digits := if layout.alternate then digits else digits.trimmed
    let digits := if digits.digits.isEmpty then { digits with digits := ['0'] } else digits
    let limit : Int := if usual then (count : Int) - 1 else count
    if digits.exponent < -4 || limit ≤ digits.exponent then
      digits.withExponent (if layout.alternate then .kept else .dropped)
    else digits.positional lone
  let fixed (precision : Nat) : List Char × List Char :=
    let (before, places) := fraction.fixed precision
    (before, Significant.behindPoint lone places)
  match layout.form.map Char.toLower, layout.precision with
  | none, none =>
    let digits := Significant.shortest number
    if digits.exponent < -4 || 16 ≤ digits.exponent then digits.withExponent lone
    else digits.positional .withZero
  | none, some precision => general precision .withZero true
  | some 'e', precision => (fraction.significant (precision.getD 6 + 1)).withExponent lone
  | some 'f', precision => fixed (precision.getD 6)
  | some '%', precision => fixed (precision.getD 6)
  | _, precision => general (precision.getD 6) lone false

/-- A float in a field. -/
def floatLetters (layout : Layout) (number : Float) : Except Fault (List Char) :=
  let form := layout.form.getD 'g'
  let number := if form = '%' then number * 100.0 else number
  let ending : List Char := if form = '%' then ['%'] else []
  let negative := !number.isNaN && number.toBits.toNat / Text.twoPow 63 = 1
  if Text.twoPow 31 ≤ layout.precision.getD 0 then .error (.badValue "precision too big")
  else
    match BinaryFraction.ofFloat? number with
    | none =>
      let name := (if number.isNaN then "nan" else "inf").toList
      .ok (layout.ofDigits negative [] [] (casedFor form name ++ ending))
    | some fraction =>
      let (digits, behind) := floatParts layout fraction number
      let isZero := (digits ++ behind.takeWhile (· ≠ 'e')).all fun c => c = '0' || c = '.'
      .ok (layout.ofDigits (negative && !(layout.plainZero && isZero)) [] digits
        (casedFor form behind ++ ending))

/-- The forms of floats. -/
def floatForms : List Char := ['e', 'E', 'f', 'F', 'g', 'G', 'n', '%']

/-! ## Whole numbers -/

/-- The forms of whole numbers. -/
def wholeForms : List Char := ['b', 'c', 'd', 'o', 'x', 'X', 'n']

/-- The base of a form, and what stands before digits in that base. -/
def baseOf (form : Char) : Nat × List Char :=
  match form with
  | 'b' => (2, ['0', 'b'])
  | 'o' => (8, ['0', 'o'])
  | 'x' => (16, ['0', 'x'])
  | 'X' => (16, ['0', 'X'])
  | _ => (10, [])

/-- A whole number as the character it stands for. -/
def characterLetters (layout : Layout) (number : Int) : Except Fault (List Char) :=
  if layout.sign.isSome then
    .error (.badValue "Sign not allowed with integer format specifier 'c'")
  else if layout.alternate then
    .error (.badValue "Alternate form (#) not allowed with integer format specifier 'c'")
  else if number < -(Text.twoPow 63 : Int) || (Text.twoPow 63 : Int) ≤ number then
    .error (.foreign "OverflowError" "Python int too large to convert to C long")
  else if number < 0 || 0x10ffff < number then
    .error (.foreign "OverflowError" "%c arg not in range(0x110000)")
  else .ok (layout.ofDigits false [] [] [Char.ofNat number.toNat])

/-- A whole number in a field. -/
def wholeLetters (layout : Layout) (number : Int) : Except Fault (List Char) :=
  if layout.precision.isSome then
    .error (.badValue "Precision not allowed in integer format specifier")
  else if layout.plainZero then
    .error (.badValue "Negative zero coercion (z) not allowed in integer format specifier")
  else
    let form := layout.form.getD 'd'
    if form = 'c' then characterLetters layout number
    else
      let (base, opening) := baseOf form
      if base = 10 && Text.isOverlong number then .error (.tooManyDigits "") else
      let digits := casedFor form (Nat.toDigits base number.natAbs)
      .ok (layout.ofDigits (number < 0) (if layout.alternate then opening else []) digits [])

/-! ## Complex numbers -/

/-- A complex number in a field. -/
def complexLetters (layout : Layout) (real imaginary : Float) : Except Fault (List Char) := do
  if layout.fill = '0' then
    throw (.badValue "Zero padding is not allowed in complex format specifier")
  if layout.alignment = .behindSign then
    throw (.badValue "'=' alignment flag is not allowed in complex format specifier")
  let part : Layout := { layout with width := none, plainZero := false }
  let part := if layout.form.isNone && layout.precision.isSome then { part with form := some 'g' }
    else part
  let unpointed (letters : List Char) : List Char :=
    if layout.form.isNone && layout.precision.isNone && !layout.alternate then
      if ['.', '0'].reverse.isPrefixOf letters.reverse then letters.take (letters.length - 2)
      else letters
    else letters
  let second ← floatLetters { part with sign := some '+' } imaginary
  let drops := layout.form.isNone && real.toBits.toNat = 0
  let first ← if drops then .ok [] else floatLetters part real
  let second := if drops && layout.sign != some '+' then second.dropWhile (· = '+') else second
  let letters := unpointed first ++ unpointed second ++ ['j']
  return layout.place []
    (if layout.form.isNone && !drops then '(' :: (letters ++ [')']) else letters)

/-! ## Any number -/

/-- A number of a class in a field. -/
def inField (number : Number) (className spec : String) : Except Fault (List Char) := do
  let parse (usual : Option Char) : Except Fault Layout :=
    orBadValue (Layout.parse .right usual className spec)
  let unknown (form : Char) : Fault := .badValue (Layout.unknownForm form className)
  match number with
  | whole value =>
    let layout ← parse (some 'd')
    let form := layout.form.getD 'd'
    if wholeForms.contains form then wholeLetters layout value
    else if floatForms.contains form then
      match number.float? with
      | some value => floatLetters layout value
      | none => throw .tooLarge
    else throw (unknown form)
  | float value =>
    let layout ← parse none
    if (layout.form.map floatForms.contains).getD true then floatLetters layout value
    else throw (unknown (layout.form.getD 'g'))
  | complex real imaginary =>
    let layout ← parse none
    if (layout.form.map fun form => floatForms.contains form && form ≠ '%').getD true then
      complexLetters layout real imaginary
    else throw (unknown (layout.form.getD 'g'))

end Deferred.Number
