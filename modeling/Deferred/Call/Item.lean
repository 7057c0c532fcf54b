import Deferred.Call.Injection

/-!
# Items by index or key

An item of a value is found by the method that its class has for that, by what the value is, or, for
a class, by applying it to arguments.
-/

namespace Deferred.Action

/-- A computed value; a new object gets a place of its own. -/
def computed : Computed → Action Value
  | .same value => return value
  | .fresh make => fresh make
  | .made id object => allocate id object

/-- A class or a type with arguments in brackets. -/
def applyType (store : Store) (type index : Value) : Action Value :=
  match Hint.subscript (store.hintScope Value.standard?) type index with
  | .ok (.applied id arguments mark) =>
    if id.isBuiltinGeneric then fresh (.applied id arguments)
    else return .applied id arguments mark
  | .ok made => return made
  | .error .badIndex => fail .badIndex
  | .error (.keyMissing key) => fail (.keyMissing (store.describe key))
  | .error _ => fail (.misuse .notIndexable)

/-- An index as a whole number, if its class has a method that makes it one. -/
def indexed (call : Caller) (index : Value) : Action Value := do
  match ← callSpecial? call index "__index__" [] with
  | some answer =>
    if (Number.wholeOf? answer).isSome then return answer else fail (.misuse .operands)
  | none => return index

/-- An index, or the bounds of a slice, as whole numbers. -/
def indexedParts (call : Caller) (index : Value) : Action Value := do
  match index with
  | .slice start stop step mark => do
    let step ← indexed call step
    let start ← indexed call start
    return .slice start (← indexed call stop) step mark
  | index => indexed call index

/-- Does a value have its items by number? -/
def isNumbered (store : Store) (value : Value) : Bool :=
  match store.plainOf value with
  | .tuple _ _ => true
  | .text _ _ => true
  | .range _ _ _ _ => true
  | plain => (store.octetsOf? plain).isSome || (store.listOf? plain).isSome

/-- An item of a value, by its index or key. -/
def item (call : Caller) (target index : Value) : Action Value := do
  match ← callSpecial? call target "__getitem__" [index] with
  | some answer => return answer
  | none =>
    let index ← if isNumbered (← store) target then indexedParts call index else done index
    let store ← store
    match store.item? target index, target with
    | some (.ok found), _ => computed found
    | some (.error fault), _ => fail fault
    | none, .cls id =>
      match store.find id "__class_getitem__" with
      | some (.value function) => call function (.ofList [index])
      | _ => applyType store target index
    | none, target => applyType store target index

end Deferred.Action
