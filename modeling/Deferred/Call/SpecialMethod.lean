import Deferred.Call.NumberMethod
import Deferred.Call.SetMethod

/-!
# Special methods

The methods with reserved names by which operators, text, lengths and items are asked for, called by
their names.  Asked for an operator that it does not take, a value leaves the matter to the other
operand.
-/

namespace Deferred.Action

/-! ## Operators -/

/-- What a value answers for an operator between two values, of which it is one. -/
def answerOperator (machine : Machine) (operator : BinaryOperator) (receiver : Value)
    (computation : Computation) (first second : Value) : Action Value := do
  match computation with
  | some (.ok result) => computed result
  | some (.error fault) => fail fault
  | none => do
    let store ← store
    let template := store.plainOf first
    if operator = .remainder && isTemplate store template then
      if template.asText?.isSome = (store.plainOf receiver).asText?.isSome &&
          isTemplate store (store.plainOf receiver) then
        fillFromValues machine.call template second
      else return .declined
    else if isSetPart store receiver then
      return (← operateParts? machine operator first second).getD .declined
    else return .declined

/-- What is left of a power when it is divided by a third number, as a number of the kind of `asked`
answers; `none` where it leaves the matter to the others.  Only whole numbers have an answer. -/
def remainderOfPower? (store : Store) (asked base exponent modulus : Value) :
    Option (Except Fault Int) :=
  let number? (value : Value) : Option Number := Number.ofValue? (store.plainOf value)
  match number? asked with
  | none => none
  | some (.float _) => some (.error (.misuse .operands))
  | some (.complex _ _) =>
    if (number? base).isSome && (number? exponent).isSome then
      some (.error (.badValue "complex modulo"))
    else none
  | some (.whole _) =>
    match number? base, number? exponent, number? modulus with
    | some (.whole base), some (.whole exponent), some (.whole modulus) =>
      some (Number.moduloPower base exponent modulus)
    | _, _, _ => none

/-- What is left of a power when it is divided by a third number: the first answer that one of the
three numbers gives. -/
def powerModulo (base exponent modulus : Value) : Action Value := do
  let store ← store
  match [base, exponent, modulus].findSome? fun asked =>
      remainderOfPower? store asked base exponent modulus with
  | some answer => do fresh (.int (← orFault answer))
  | none => fail (.misuse .operands)

/-- What one of three numbers answers to that. -/
def answerPower (asked base exponent modulus : Value) : Action Value := do
  match remainderOfPower? (← store) asked base exponent modulus with
  | some answer => do fresh (.int (← orFault answer))
  | none => return .declined

/-- The special methods for operators; `none` for any other name. -/
def operatorMethod? (machine : Machine) (receiver : Value) (name : String)
    (arguments : List Value) : Option (Action Value) :=
  match name, arguments with
  | "__pow__", [exponent, .absent] => direct .power exponent
  | "__pow__", [exponent, modulus] => some (answerPower receiver receiver exponent modulus)
  | "__rpow__", [base, .absent] => exchanged .power base
  | "__rpow__", [base, modulus] => some (answerPower receiver base receiver modulus)
  | name, [other] =>
    match BinaryOperator.ofMethod? name, BinaryOperator.ofExchanged? name with
    | some operator, _ => direct operator other
    | none, some operator => exchanged operator other
    | none, none => none
  | _, _ => none
where
  direct (operator : BinaryOperator) (other : Value) : Option (Action Value) := some do
    let contrary ← if operator = .unequal then askOperand machine "__ne__" receiver other
      else done none
    if let some answer := contrary then return answer
    let computation := (← store).slot? operator receiver other
    answerOperator machine operator receiver computation receiver other
  exchanged (operator : BinaryOperator) (other : Value) : Option (Action Value) := some do
    let computation := (← store).exchangedSlot? operator receiver other
    answerOperator machine operator receiver computation other receiver

/-! ## Iterations -/

/-- How many items an iteration still gives out, if it can tell. -/
def itemsLeft? (store : Store) : Cursor → Option Nat
  | .items rest => some rest.length
  | .list target position =>
    (store.listOf? (.object ClassId.list target)).map fun items => items.length - position
  | .listBack target left =>
    (store.listOf? (.object ClassId.list target)).map fun items =>
      if items.length < left then 0 else left
  | .table _ target size rest =>
    (store.entriesOf? (.object ClassId.dict target)).map fun entries =>
      if entries.length = size then rest.length else 0
  | .set target size rest =>
    (store.slotsOf? (.object ClassId.set target)).map fun slots =>
      if slots.size = size then rest.length else 0
  | .range _ _ left => some left
  | _ => none

/-- The special methods of iterations; `none` for any other name. -/
def iterationMethod? (machine : Machine) (receiver : Value) (cursor : Cursor) (name : String)
    (arguments : List Value) : Option (Action Value) :=
  match name, arguments with
  | "__iter__", [] => some (return receiver)
  | "__next__", [] => some do
    orFail (.foreign "StopIteration" "") (← next? machine receiver)
  | "__length_hint__", [] => some do
    match itemsLeft? (← store) cursor with
    | some left => fresh (.int left)
    | none => return .declined
  | _, _ => none

/-! ## Any values -/

/-- A function bound to a value that it is looked up on. -/
def boundFor (receiver target type : Value) : Action Value :=
  match target, type with
  | .absent, .absent => fail (.misuse .arguments)
  | .absent, _ => return receiver
  | target, _ => fresh (.bound target receiver)

/-- The special methods of values of any class; `none` for any other name. -/
def commonMethod? (machine : Machine) (receiver : Value) (name : String)
    (arguments : List Value) : Option (Action Value) :=
  match name, arguments with
  | "__repr__", [] => some (told machine.call { value := receiver })
  | "__str__", [] => some do
    match (← store).plainOf receiver with
    | .text text mark => return .text text mark
    | _ => told machine.call ⟨receiver, true⟩
  | "__format__", [spec] => some do
    inField machine.call ((← store).plainOf receiver) (← nameArgument spec)
  | "__len__", [] => some do fresh (.int (← lengthWithin machine receiver))
  | "__bool__", [] => some do return .bool ((← store).isTrue receiver)
  | "__iter__", [] => some do iterate machine ((← store).plainOf receiver)
  | "__contains__", [value] => some do
    return .bool (← placeOf? machine value (← itemsOf machine receiver)).isSome
  | "__getitem__", [index] => some do
    match (← store).item? receiver index with
    | some found => computed (← orFault found)
    | none => fail (.misuse .notIndexable)
  | "__get__", [target] => some (boundFor receiver target .absent)
  | "__get__", [target, type] => some (boundFor receiver target type)
  | name, arguments => operatorMethod? machine receiver name arguments

/-- The digest of a value as a number. -/
def digestOf (value : Value) : Action Value := do
  if value.hashable then fresh (.int ((← store).digest value).toInt)
  else fail (.misuse .unhashable)

/-- What an instance is made of, to be copied: its attributes, if it has any. -/
def stateOf (receiver : Value) : Action Value := do
  match (← store).attributesOf receiver with
  | [] => return .absent
  | bindings => newTable bindings

/-- What every value says of being equal to another unless its class knows better. -/
def compareIdentity (name : String) (receiver other : Value) : Value :=
  match name with
  | "__eq__" => if Value.same receiver other then .bool true else .declined
  | "__ne__" => if Value.same receiver other then .bool false else .declined
  | _ => .declined

/-- The special methods that every value has through the root of all classes. -/
def rootMethod (machine : Machine) (receiver : Value) (name : String) (arguments : List Value) :
    Action Value :=
  match name, arguments with
  | "__init__", _ => return .absent
  | "__hash__", [] => digestOf receiver
  | "__getstate__", [] => stateOf receiver
  | "__setattr__", [part, value] => do
    silently (setAttribute receiver (← nameArgument part) value)
  | "__delattr__", [part] => do silently (removeAttribute receiver (← nameArgument part))
  | "__getattribute__", [part] => do
    let part ← nameArgument part
    orFail (.noAttribute part) (← plainAttribute? machine.call receiver part)
  | name, arguments =>
    (commonMethod? machine receiver name arguments).getD (fail (.misuse .arguments))

/-- The methods of the root of all classes for a value whose class has others in their place. -/
def hiddenMethod (machine : Machine) (receiver : Value) (name : String)
    (arguments : List Value) : Action Value := do
  let store ← store
  match name, arguments with
  | "__repr__", [] => fresh (.text (store.anonymous receiver.classId))
  | "__hash__", [] => fresh (.int 1000)
  | "__format__", [spec] => do
    if (← nameArgument spec) = "" then toText machine.call receiver
    else fail (.misuse .arguments)
  | "__ne__", [other] => return .bool !(← holdsOf machine .equal receiver other)
  | name, [other] =>
    if (BinaryOperator.ofMethod? name).isSome then return compareIdentity name receiver other
    else rootMethod machine receiver name [other]
  | name, arguments => rootMethod machine receiver name arguments

end Deferred.Action
