import Deferred.Call.Construct
import Deferred.Call.Dispatch
import Deferred.Code.Record
import Deferred.Script.Datum
import Deferred.Store.Names

/-!
# Functions that are always there

What the functions do that every module sees, and those that generated code is given by name.
-/

namespace Deferred.Action

/-- A truth value. -/
def answering (action : Action Bool) : Action Value := do return .bool (← action)

/-- The text that an attribute is asked for by. -/
def attributeName (value : Value) : Action String :=
  orFail (.misuse .operands) value.asText?

/-- Does some item count as true, or as false? -/
def anyItem (machine : Machine) (sought : Bool) (iteration : Value) : Nat → Action Bool
  | 0 => fail .outOfFuel
  | bound + 1 => do
    match ← next? machine iteration with
    | none => return false
    | some item =>
      if (← truth machine item) = sought then return true
      else anyItem machine sought iteration bound

/-- The sum of some items, which are not strings. -/
def sumOf (machine : Machine) (source start : Value) : Action Value := do
  let store ← store
  if (spelling? store start).isSome then fail (.misuse .operands)
  else foldItems machine (operate machine .add) start source

/-- The smallest or the largest of some values. -/
def extremeOf (machine : Machine) (largest : Bool) (arguments : Arguments) : Action Value := do
  let known := ["key", "default"]
  if arguments.keywords.any fun (name, _) => !known.contains name then fail (.misuse .arguments)
  let otherwise := arguments.keywords.lookup "default"
  let source ← match arguments.positional with
    | [] => fail (.misuse .arguments)
    | [source] => done source
    | items => if otherwise.isSome then fail (.misuse .arguments) else done (.tuple items 0)
  let key := (arguments.keywords.lookup "key").getD .absent
  match ← extreme? machine (if largest then .greater else .less) key source, otherwise with
  | some found, _ => return found
  | none, some default => return default
  | none, none =>
    fail (.badValue ((if largest then "max()" else "min()") ++ " arg is an empty sequence"))

/-- Print values on one line. -/
def printValues (call : Caller) (values : List Value) (separator ending : Value) :
    Action Value := do
  let written (value : Value) (otherwise : String) : Action String := match value with
    | .absent => return otherwise
    | value => nameArgument value
  let separator ← written separator " "
  let ending ← written ending "\n"
  perform (.print (String.intercalate separator (← each values) ++ ending))
  return .absent
where
  each : List Value → Action (List String)
    | [] => return []
    | value :: rest => do
      let text ← toText call value
      let first := (← store).textOf text
      return first :: (← each rest)

/-- A number in another base, as it is written. -/
def inBase (call : Caller) (opening : String) (base : Nat) (value : Value) : Action Value := do
  let number ← wholeNumber call value
  fresh (.text ((if number < 0 then "-" else "") ++ opening ++
    String.ofList (Nat.toDigits base number.natAbs)))

/-- The character that a number stands for. -/
def characterOf (call : Caller) (value : Value) : Action Value := do
  let code ← shortNumber call value
  if 0 ≤ code ∧ code < 0x110000 then
    fresh (.text (String.ofList [Char.ofNat code.toNat]))
  else fail (.badValue "chr() arg not in range(0x110000)")

/-- The number that a single character or octet stands for. -/
def numberOfCharacter (value : Value) : Action Value := do
  match spelling? (← store) value with
  | some [c] => fresh (.int c.toNat)
  | _ => fail (.misuse .operands)

/-- The digest of a value, as its class has it. -/
def hashOf (call : Caller) (value : Value) : Action Value := do
  match special? (← store) value "__hash__" with
  | some .absent => fail (.misuse .unhashable)
  | some found => do
    match Number.wholeOf? (← callFound call value found []) with
    | some number => fresh (.int number)
    | none => fail (.misuse .operands)
  | none => digestOf value

/-- How far a value is from zero. -/
def sizeOf (call : Caller) (value : Value) : Action Value := do
  match ← callSpecial? call value "__abs__" [] with
  | some answer => return answer
  | none =>
    match Number.ofValue? ((← store).plainOf value) with
    | some number => sizeOfNumber number
    | none => fail (.misuse .operands)

/-- The functions on one value. -/
def unaryFunction (machine : Machine) (name : String) (value : Value) : Action Value := do
  let store ← store
  let call := machine.call
  match name with
  | "len" => do fresh (.int (← lengthOf machine value))
  | "repr" => shownText call value
  | "ascii" => plainText call value
  | "callable" => return .bool (store.isCallable value)
  | "abs" => sizeOf call value
  | "any" => answering do anyItem machine true (← iterate machine value) machine.bound
  | "all" => answering do
    return !(← anyItem machine false (← iterate machine value) machine.bound)
  | "hash" => hashOf call value
  | "id" => match value with
    | .object _ place => fresh (.int (place + 1000))
    | _ => fresh (.int 999)
  | "chr" => characterOf call value
  | "ord" => numberOfCharacter value
  | "bin" => inBase call "0b" 2 value
  | "oct" => inBase call "0o" 8 value
  | "hex" => inBase call "0x" 16 value
  | "iter" => iterate machine value
  | "vars" => do
    match ← attribute? call value "__dict__" with
    | some table => return table
    | none => fail (.misuse .operands)
  | "dir" => do
    match ← callSpecial? call value "__dir__" [] with
    | some names => newList (← sorted machine (← itemsOf machine names) .absent (.bool false))
    | none => newList (((← Action.store).namesOf value).map .ofText)
  | "format" => inField call value ""
  | "dataclass" =>
    match value with
    | .cls id => do
      declareFields call id
      return value
    | _ => fail (.noAttribute "__dict__")
  | "singledispatch" => dispatching value
  | _ => fail (.misuse .arguments)

/-- The functions that are called with several values by position. -/
def standardFunction (machine : Machine) (name : String) (arguments : List Value) :
    Action Value := do
  let call := machine.call
  match name, arguments with
  | "isinstance", [value, type] => answering (isInstanceOf machine value type)
  | "issubclass", [value, type] => answering (isSubclassOf machine value type)
  | "getattr", [value, part] => do getAttribute call value (← attributeName part)
  | "getattr", [value, part, default] => do
    match ← attempt (getAttribute call value (← attributeName part)) with
    | .ok found => return found
    | .error fault => if isMissing fault then return default else fail fault
  | "hasattr", [value, part] => do
    answering (hasAttribute call value (← attributeName part))
  | "setattr", [value, part, content] => do
    silently (assignAttribute call value (← attributeName part) content)
  | "delattr", [value, part] => do
    let name ← attributeName part
    if let some _ := ← callSpecial? call value "__delattr__" [part] then return .absent
    silently (removeAttribute value name)
  | "sorted", [source, key, backwards] => do
    newList (← sorted machine (← itemsOf machine source) key backwards)
  | "sum", [source, start] => sumOf machine source start
  | "iter", [function, last] =>
    if (← store).isCallable function then newIteration "callable_iterator" (.answers function last)
    else fail (.misuse .notCallable)
  | "next", [iteration] => do
    match ← callSpecial? call iteration "__next__" [] with
    | some answer => return answer
    | none => orFail (.foreign "StopIteration" "") (← next? machine iteration)
  | "next", [iteration, default] => return (← next? machine iteration).getD default
  | "pow", [base, exponent, .absent] => operate machine .power base exponent
  | "pow", [base, exponent, modulus] => do
    if let some answer := ← callSpecial? call base "__pow__" [exponent, modulus] then
      return answer
    powerModulo base exponent modulus
  | "round", [value, places] => do
    let given := match places with
      | .absent => []
      | places => [places]
    if let some answer := ← callSpecial? call value "__round__" given then return answer
    match Number.ofValue? ((← store).plainOf value) with
    | some number => roundedNumber call number places
    | none => fail (.misuse .operands)
  | "divmod", [first, second] => operate machine .divideWithRemainder first second
  | "__import__", [name, _, _, members, _] => do
    let path ← nameArgument name
    let found ← Datum.moduleNamed path
    return if (← store).isTrue members then found
      else .module (String.ofList (path.toList.takeWhile (· ≠ '.')))
  | "print", [.tuple values _, separator, ending, _, _] =>
    printValues call values separator ending
  | "format", [value, layout] => do inField call value (← nameArgument layout)
  | "unimplemented", [target, method] => do
    let store ← store
    allocate (.declared "builtins" "NotImplementedError") (.exception
      [.ofText (store.className target.classId ++ " does not implement `" ++ store.textOf method ++ "`")])
  | "register", [dispatcher, type] => registerImplementation dispatcher type none
  | "register", [dispatcher, type, function] =>
    registerImplementation dispatcher type (some function)
  | "dispatch", [dispatcher, type] => do
    let store ← store
    match (store.functionOf? dispatcher).map FunctionObject.body, type with
    | some (.dispatch implementations otherwise), .cls id =>
      return implementationFor store implementations otherwise id
    | _, _ => fail (.misuse .notAClass)
  | name, [value] => unaryFunction machine name value
  | _, _ => fail (.misuse .arguments)

/-- What the body of a class sets a field to, to say more than its default. -/
def newFieldOptions (keywords : List (String × Value)) : Action Value :=
  if keywords.all fun (name, _) => ["default", "default_factory", "kw_only"].contains name then
    allocate ClassId.fieldOptions .plain keywords
  else fail (.misuse .arguments)

/-- Call a function that is always there. -/
def callStandard (machine : Machine) (name : String) (arguments : Arguments) : Action Value := do
  if name = "min" ∨ name = "max" then extremeOf machine (name = "max") arguments
  else if name = "field" then newFieldOptions arguments.keywords
  else
    match Store.builtinParameters? name with
    | some parameters => do
      standardFunction machine name (← valuesFor name parameters arguments)
    | none =>
      if arguments.keywords.isEmpty then standardFunction machine name arguments.positional
      else fail (.misuse .arguments)

end Deferred.Action
