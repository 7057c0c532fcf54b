import Deferred.Call.Exception
import Deferred.Call.SpecialMethod
import Deferred.Number.Hexadecimal

/-!
# Methods of plain values

Which methods a value has follows from what it is.  Some methods belong to a class rather than to
its instances and make new instances of it; outcomes have methods that act on one of their sides.
-/

namespace Deferred.Action

/-! ## Outcomes -/

/-- The methods of an outcome: each acts on one side and leaves the other as it is. -/
def outcomeMethod (call : Caller) (receiver : Value) (name : String) (arguments : List Value) :
    Action Value := do
  match receiver, name, arguments with
  | .success value _, "unwrap", [] => return value
  | .failure value _, "failure", [] => return value
  | .success value _, "value_or", [_] => return value
  | .failure _ _, "value_or", [default] => return default
  | .success value _, "map", [function] => do
    let mapped ← call function (.ofList [value])
    fresh (.success mapped)
  | .failure value _, "alt", [function] => do
    let mapped ← call function (.ofList [value])
    fresh (.failure mapped)
  | .success value _, "bind", [function] => call function (.ofList [value])
  | .failure value _, "lash", [function] => call function (.ofList [value])
  | .success value _, "swap", [] => fresh (.failure value)
  | .failure value _, "swap", [] => fresh (.success value)
  | .success value _, "apply", [.success function _] => do
    let mapped ← call function (.ofList [value])
    fresh (.success mapped)
  | .success _ _, "apply", [container] => return container
  | _, "unwrap", [] => fail .wrongOutcome
  | _, "failure", [] => fail .wrongOutcome
  | receiver, _, _ => return receiver

/-! ## Properties -/

/-- The methods of a property; `none` for any other name. -/
def propertyMethod? (call : Caller) (receiver : Value) (name : String) (arguments : List Value) :
    Option (Action Value) :=
  let part (name : String) : Action Value := do
    return ((← store).ownAttribute? receiver name).getD .absent
  let ask (name : String) (arguments : List Value) : Action Value := do
    match ← part name with
    | .absent => fail (.noAttribute name)
    | function => call function (.ofList arguments)
  let changed (name : String) (function : Value) : Option (Action Value) := some do
    let parts := (← store).attributesOf receiver
    allocate receiver.classId .plain (Entries.put parts name function)
  match name, arguments with
  | "getter", [function] => changed "fget" function
  | "setter", [function] => changed "fset" function
  | "deleter", [function] => changed "fdel" function
  | "__get__", .absent :: _ => some (return receiver)
  | "__get__", target :: _ => some (ask "fget" [target])
  | "__set__", [target, value] => some (silently do
    let _ ← ask "fset" [target, value])
  | "__delete__", [target] => some (silently do
    let _ ← ask "fdel" [target])
  | _, _ => none

/-! ## Methods of classes -/

/-- A table that translates octets. -/
def octetTable (first second : Value) : Action Value := do
  let first ← octetArgument first
  let second ← octetArgument second
  if first.length ≠ second.length then
    fail (.badValue "maketrans arguments must have same length")
  else
    let table := (List.range 256).map UInt8.ofNat
    fresh (.octets ((first.zip second).foldl
      (fun sofar (octet, stand) => sofar.set octet.toNat stand) table))

/-- The float that a text spells in hexadecimal digits. -/
def floatOfHex (text : Value) : Action Value := do
  match Number.Hexadecimal.read? (← textArgument text) with
  | none => fail (.badValue "invalid hexadecimal floating-point string")
  | some number =>
    if number.isInf && !(namesInfinity (← textArgument text)) then
      fail (.foreign "OverflowError" "hexadecimal value too large to represent as a float")
    else fresh (.float number)
where
  namesInfinity (letters : List Char) : Bool :=
    letters.any fun c => c = 'i' || c = 'I' || c = 'n' || c = 'N'

/-- The methods that belong to a class that is always there. -/
def standardClassMethod (machine : Machine) (id : ClassId) (name : String)
    (arguments : List Value) : Action Value := do
  match name, arguments with
  | "fromkeys", [keys, value] => tableOfKeys machine keys value
  | "from_bytes", [source, order, isSigned] => do
    let number ← numberOfOctets machine source order (← truth machine isSigned)
    if id = ClassId.bool then return .bool ((← store).isTrue number) else return number
  | "fromhex", [text] =>
    if id = ClassId.float then floatOfHex text
    else do
      let octets ← octetsOfHex text
      if id = ClassId.octetArray then allocate id (.octets octets) else fresh (.octets octets)
  | "maketrans", [first, second] => do
    if (← store).isSubclass id ClassId.text then translationTable first second.elements
    else octetTable first second
  | "__class_getitem__", [index] => do applyType (← store) (.cls id) index
  | "__init_subclass__", [] => return .absent
  | "__subclasshook__", [_] => return .declined
  | "__prepare__", _ => newDict []
  | "__getformat__", [kind] => do
    match ← nameArgument kind with
    | "double" => return .ofText "IEEE, little-endian"
    | "float" => return .ofText "IEEE, little-endian"
    | _ => fail (.badValue "__getformat__() argument 1 must be 'double' or 'float'")
  | _, _ => fail (.misuse .arguments)

/-! ## All methods -/

/-- The methods that a value has for what it is; `none` for any other name. -/
def plainMethod? (machine : Machine) (store : Store) (receiver : Value) (name : String)
    (arguments : List Value) : Option (Action Value) :=
  let plain := store.plainOf receiver
  match plain with
  | .text text _ => textMethod? machine plain text name arguments
  | .tuple items _ => tupleMethod? machine items name arguments
  | .octets content _ => octetMethod? machine plain content name arguments
  | .range start stop step _ => rangeMethod? start stop step name arguments
  | .slice start stop step _ => sliceMethod? machine.call start stop step name arguments
  | .object id place =>
    match store.object? place with
    | some (.list items) =>
      if store.isSubclass id ClassId.list then listMethod? machine receiver place items name arguments
      else none
    | some (.dict entries) =>
      if id = ClassId.mappingView then readTable? receiver place entries name arguments
      else tableMethod? machine receiver place entries name arguments
    | some (.set slots) => setMethod? machine receiver place slots name arguments
    | some (.view part table) => partMethod? machine part table name arguments
    | some (.octets content) => octetMethod? machine receiver content name arguments
    | some (.exception _) => exceptionMethod? machine receiver name arguments
    | some (.iteration cursor) => iterationMethod? machine receiver cursor name arguments
    | some .plain =>
      if id.name = "property" then propertyMethod? machine.call receiver name arguments else none
    | _ => none
  | plain => (Number.ofValue? plain).bind fun number =>
    numberMethod? machine number name arguments

/-- Does the class of a value bring a method of its own in place of one of the root? -/
def hidesRoot (store : Store) (receiver : Value) (name : String) : Bool :=
  match store.find receiver.classId name with
  | some (.member owner _ _) => receiver.classId.isStandard && owner ≠ ClassId.object
  | _ => false

/-- Call a method that a class of plain values has from the start; `owner` is that class. -/
def standardMethod (machine : Machine) (owner : ClassId) (receiver : Value) (name : String)
    (arguments : List Value) : Action Value := do
  let store ← store
  if owner = ClassId.object then
    if hidesRoot store receiver name then hiddenMethod machine receiver name arguments
    else rootMethod machine receiver name arguments
  else
    (plainMethod? machine store receiver name arguments).getD
      (rootMethod machine receiver name arguments)

end Deferred.Action
