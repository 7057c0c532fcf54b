import Deferred.Call.Describe
import Deferred.Number.Read

/-!
# Values as numbers

A value stands for a number when it is one, when its class has a method that makes it one, or, for
text and octets, when it spells one.
-/

namespace Deferred.Action

/-- What the first special method answers that the class of a value has of some. -/
def askFor (call : Caller) : List String → Value → Action (Option Value)
  | [], _ => return none
  | name :: rest, value => do
    match ← callSpecial? call value name [] with
    | some answer => return some answer
    | none => askFor call rest value

/-- The whole number that a value stands for where one is asked for by position or count. -/
def wholeNumber (call : Caller) (value : Value) : Action Int := do
  let store ← store
  match Number.wholeOf? (store.plainOf value) with
  | some number => return number
  | none =>
    match (← callSpecial? call value "__index__" []).bind Number.wholeOf? with
    | some number => return number
    | none => fail (.misuse .operands)

/-- The whole number that a value stands for, which has to fit where a size is asked for. -/
def sizeNumber (call : Caller) (value : Value) : Action Int := do
  let number ← wholeNumber call value
  if Store.fitsSize number then return number else fail Store.unfitSize

/-- The whole number that a value stands for, which has to fit into thirty-two bits. -/
def shortNumber (call : Caller) (value : Value) : Action Int := do
  let number ← wholeNumber call value
  let limit : Int := Text.twoPow 31
  if -limit ≤ number && number < limit then return number
  else fail (.foreign "OverflowError" "Python int too large to convert to C int")

/-- Is a number that stands for yes or no anything but zero? -/
def switchedOn (call : Caller) (value : Value) : Action Bool := do
  return (← shortNumber call value) ≠ 0

/-- The whole part of a float. -/
def truncated (value : Float) : Action Int :=
  match BinaryFraction.ofFloat? value with
  | some fraction => return fraction.truncated
  | none =>
    if value.isNaN then fail (.badValue "cannot convert float NaN to integer")
    else fail (.foreign "OverflowError" "cannot convert float infinity to integer")

/-- A value as a message shows it, cut to two hundred characters. -/
def excerpt (store : Store) (value : Value) : String :=
  String.ofList ((store.describe value).toList.take 200)

/-- The text that text or octets spell a number with. -/
def spelling? (store : Store) (value : Value) : Option (List Char) :=
  match store.plainOf value with
  | .text text _ => some text.toList
  | plain => (store.octetsOf? plain).map (List.map fun octet => Char.ofNat octet.toNat)

/-- The whole number that a value spells in a base. -/
def readWhole (base : Int) (value : Value) : Action Int := do
  let store ← store
  let letters ← orFail (.misuse .operands) (spelling? store value)
  let shown ← match store.plainOf value with
    | .text _ _ => done value
    | plain => do fresh (.octets ((store.octetsOf? plain).getD []))
  let number ← orFail (.badValue ("invalid literal for int() with base " ++ toString base ++ ": " ++
    excerpt store shown)) (Number.Read.whole? base.toNat letters)
  let size := (letters.filter fun c => (Number.Read.digit? c).isSome).length
  let isShortened := [0, 2, 4, 8, 16, 32].contains base
  if Text.digitLimit < size && !isShortened then
    fail (.tooManyDigits (": value has " ++ toString size ++ " digits"))
  else return number

/-- A value as a whole number.  What stands behind the point of a float is dropped. -/
def toWhole (call : Caller) (value : Value) : Action Int := do
  match ← askFor call ["__int__", "__index__", "__trunc__"] value with
  | some answer => orFail (.misuse .operands) (Number.wholeOf? answer)
  | none => do
    match Number.ofValue? ((← store).plainOf value) with
    | some (.whole number) => return number
    | some (.float number) => truncated number
    | some (.complex _ _) => fail (.misuse .operands)
    | none => readWhole 10 value

/-- A number as a float. -/
def numberToFloat (number : Number) : Action Float :=
  match number, number.float? with
  | .complex _ _, _ => fail (.misuse .operands)
  | _, some number => return number
  | _, none => fail .tooLarge

/-- The float that a value is, or that its class makes of it. -/
def floatNumber (call : Caller) (value : Value) : Action Float := do
  match ← callSpecial? call value "__float__" [] with
  | some answer =>
    match Number.ofValue? ((← store).plainOf answer) with
    | some (.float number) => return number
    | _ => fail (.misuse .operands)
  | none =>
    let answer ← callSpecial? call value "__index__" []
    match Number.ofValue? ((← store).plainOf (answer.getD value)) with
    | some number => numberToFloat number
    | none => fail (.misuse .operands)

/-- A value as a float, be it spelled. -/
def toFloat (call : Caller) (value : Value) : Action Float := do
  let store ← store
  match spelling? store value with
  | some letters =>
    orFail (.badValue ("could not convert string to float: " ++ store.describe value))
      (Number.Read.float? letters)
  | none => floatNumber call value

/-- A value as the two parts of a complex number. -/
def complexParts (call : Caller) (value : Value) : Action (Float × Float) := do
  match ← callSpecial? call value "__complex__" [] with
  | some (.complex real imaginary _) => return (real, imaginary)
  | some _ => fail (.misuse .operands)
  | none =>
    match Number.ofValue? ((← store).plainOf value) with
    | some number => orFail .tooLarge number.parts?
    | none => return (← floatNumber call value, 0.0)

end Deferred.Action
