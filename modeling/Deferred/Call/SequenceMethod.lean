import Deferred.Call.HostMethod
import Deferred.Call.Order

/-!
# Methods of lists, tuples and ranges

A list is changed in place, and most methods that change it answer with nothing.  Items are looked
for by what the operators say of them.
-/

namespace Deferred.Action

/-- The place of the first item that agrees with a value. -/
def placeOf? (machine : Machine) (value : Value) : List Value → Action (Option Nat)
  | [] => return none
  | item :: rest => do
    if ← agreeing machine item value then return some 0
    else return (← placeOf? machine value rest).map (· + 1)

/-- How many items agree with a value. -/
def countOf (machine : Machine) (value : Value) : List Value → Action Nat
  | [] => return 0
  | item :: rest => do
    let agrees ← agreeing machine item value
    return (← countOf machine value rest) + if agrees then 1 else 0

/-- A bound of a search: the place between items that an index means. -/
def boundOf (call : Caller) (size otherwise : Nat) (value : Value) : Action Nat := do
  match value with
  | .absent => return otherwise
  | value => return clamped size (← wholeNumber call value)

/-- The place of a value between two bounds; `missing` says that it is not there. -/
def indexIn (machine : Machine) (items : List Value) (value start stop : Value)
    (missing : Action String) : Action Value := do
  let first := clamped items.length (← wholeNumber machine.call start)
  let last := clamped items.length (← wholeNumber machine.call stop)
  match ← placeOf? machine value ((items.take last).drop first) with
  | some place => fresh (.int (first + place : Nat))
  | none => fail (.badValue (← missing))

/-- The items of a list as it is at the moment. -/
def itemsAt (place : Ref) : Action (List Value) := do
  return ((← store).listOf? (.object ClassId.list place)).getD []

/-- Put the items of a value behind those of a list.  The items before one that cannot be had stay in
the list. -/
def extendAt (machine : Machine) (place : Ref) (source : Value) : Action Unit := do
  let (more, fault) ← mapUntil machine done source
  perform (.setItems place ((← itemsAt place) ++ more))
  raised fault

/-- Put the items of a list in order.  The list has no items while that is done. -/
def sortAt (machine : Machine) (place : Ref) (key backwards : Value) : Action Unit := do
  let falling ← switchedOn machine.call backwards
  let items ← itemsAt place
  perform (.setItems place [])
  let (items, fault) ← ordered machine items key falling
  let isChanged := !(← itemsAt place).isEmpty
  perform (.setItems place items)
  raised fault
  if isChanged then fail (.badValue "list modified during sort") else done ()

/-- Put items in place of those that a slice takes from a list. -/
def assignSlice {α : Type} (slice : Slice) (items others : List α) : Except Fault (List α) :=
  if slice.step = 1 then .ok (slice.replace items others)
  else
    let size := (slice.positions items.length).length
    if size = others.length then .ok (slice.assign items others)
    else .error (.badValue ("attempt to assign sequence of size " ++ toString others.length ++
      " to extended slice of size " ++ toString size))

/-- Sequences with an item, or the items of a slice, put in place of others or left out; `one` reads
an item and `many` several. -/
def setItems {α : Type} (call : Caller) (items : List α) (index content : Value)
    (one : Value → Action α) (many : Value → Action (List α)) : Action (List α) := do
  let index ← indexedParts call index
  let store ← store
  match index with
  | .slice start stop step _ => do
    let slice ← orFault (store.sliceOf start stop step)
    orFault (assignSlice slice items (← many content))
  | index => do
    let place ← orFault (store.positionOf items.length index)
    return items.set place (← one content)

/-- A sequence without an item, or without those of a slice. -/
def removeItems {α : Type} (call : Caller) (items : List α) (index : Value) :
    Action (List α) := do
  let index ← indexedParts call index
  let store ← store
  match index with
  | .slice start stop step _ => do
    let slice ← orFault (store.sliceOf start stop step)
    return slice.without items
  | index => return items.eraseIdx (← orFault (store.positionOf items.length index))

/-- The place of the item that a sequence loses; `empty` is the fault of one without items. -/
def poppedPlace (call : Caller) (size : Nat) (index : Value) : Action Nat := do
  let index ← sizeNumber call index
  orFail .badIndex (position? size index)

/-- The methods that change a list; `none` for any other name. -/
def changeList? (machine : Machine) (receiver : Value) (place : Ref) (name : String)
    (arguments : List Value) : Option (Action Value) :=
  let write (items : List Value) : Action Value := silently (perform (.setItems place items))
  let items := itemsAt place
  match name, arguments with
  | "append", [item] => some do write ((← items) ++ [item])
  | "extend", [more] => some (silently (extendAt machine place more))
  | "insert", [index, value] => some do
    let index ← sizeNumber machine.call index
    let items ← items
    let start := clamped items.length index
    write (items.take start ++ value :: items.drop start)
  | "pop", [index] => some do
    let items ← items
    let position ← poppedPlace machine.call items.length index
    perform (.setItems place (items.eraseIdx position))
    return (items[position]?).getD .absent
  | "remove", [value] => some do
    match ← placeOf? machine value (← items) with
    | some position => write ((← items).eraseIdx position)
    | none => fail (.badValue "list.remove(x): x not in list")
  | "clear", [] => some (write [])
  | "reverse", [] => some do write (← items).reverse
  | "sort", [key, backwards] => some (silently (sortAt machine place key backwards))
  | "__setitem__", [index, value] => some do
    write (← setItems machine.call (← items) index value done (itemsOf machine))
  | "__delitem__", [index] => some do write (← removeItems machine.call (← items) index)
  | "__iadd__", [more] => some do
    extendAt machine place more
    return receiver
  | "__imul__", [count] => some do
    match (← store).repeat? receiver (← wholeNumber machine.call count) with
    | some (.ok (.made _ (.list items))) => do
      perform (.setItems place items)
      return receiver
    | some (.error fault) => fail fault
    | _ => return .declined
  | "__init__", [] => some (write [])
  | "__init__", [source] => some do
    perform (.setItems place [])
    silently (extendAt machine place source)
  | "__init__", _ => some (fail (.misuse .arguments))
  | _, _ => none

/-- The methods of a list; `none` for any other name. -/
def listMethod? (machine : Machine) (receiver : Value) (place : Ref) (items : List Value)
    (name : String) (arguments : List Value) : Option (Action Value) :=
  match name, arguments with
  | "copy", [] => some (newList items)
  | "count", [value] => some do fresh (.int (← countOf machine value items))
  | "index", [value, start, stop] =>
    some (indexIn machine items value start stop do
      return (← store).describe value ++ " is not in list")
  | "__reversed__", [] =>
    some (newIteration "list_reverseiterator" (.listBack place items.length))
  | name, arguments => changeList? machine receiver place name arguments

/-- The methods of a tuple; `none` for any other name. -/
def tupleMethod? (machine : Machine) (items : List Value) (name : String)
    (arguments : List Value) : Option (Action Value) :=
  match name, arguments with
  | "count", [value] => some do fresh (.int (← countOf machine value items))
  | "index", [value, start, stop] =>
    some (indexIn machine items value start stop (return "tuple.index(x): x not in tuple"))
  | "__getnewargs__", [] => some (fresh (.tuple [.tuple items 0]))
  | _, _ => none

/-- The place of a number in a range. -/
def rangePlace? (start stop step : Int) (number : Int) : Option Nat :=
  let distance := number - start
  if step = 0 || distance.fmod step ≠ 0 then none
  else
    let place := distance.fdiv step
    if 0 ≤ place && place < rangeSize start stop step then some place.toNat else none

/-- The whole number that a value is equal to. -/
def wholeEqual? (store : Store) (value : Value) : Option Int :=
  match Number.ofValue? (store.plainOf value) with
  | some (.whole number) => some number
  | some (.float number) =>
    (BinaryFraction.ofFloat? number).bind fun fraction =>
      if fraction.numerator % fraction.denominator = 0 then some fraction.truncated else none
  | some (.complex real imaginary) =>
    if imaginary == 0 then
      (BinaryFraction.ofFloat? real).bind fun fraction =>
        if fraction.numerator % fraction.denominator = 0 then some fraction.truncated else none
    else none
  | none => none

/-- The methods of a range; `none` for any other name. -/
def rangeMethod? (start stop step : Int) (name : String) (arguments : List Value) :
    Option (Action Value) :=
  let place (store : Store) (value : Value) : Option Nat :=
    (wholeEqual? store value).bind (rangePlace? start stop step)
  match name, arguments with
  | "count", [value] => some do
    return .ofInt (if (place (← store) value).isSome then 1 else 0)
  | "index", [value] => some do
    let store ← store
    match place store value, Number.wholeOf? (store.plainOf value) with
    | some found, _ => fresh (.int found)
    | none, some _ => fail (.badValue (store.describe value ++ " is not in range"))
    | none, none => fail (.badValue "sequence.index(x): x not in sequence")
  | "__contains__", [value] => some do return .bool (place (← store) value).isSome
  | "__reversed__", [] => some do
    let size := rangeSize start stop step
    iterateRange (start + (size - 1) * step) (start - step) (-step)
  | _, _ => none

/-- The methods of a slice; `none` for any other name. -/
def sliceMethod? (call : Caller) (start stop step : Value) (name : String)
    (arguments : List Value) : Option (Action Value) :=
  match name, arguments with
  | "indices", [size] => some do
    let size ← wholeNumber call size
    if size < 0 then fail (.badValue "length should not be negative")
    else
      let slice ← orFault ((← store).sliceOf start stop step)
      let (first, last) := slice.bounds size.toNat
      fresh (.tuple [.ofInt first, .ofInt last, .ofInt slice.step])
  | _, _ => none

end Deferred.Action
