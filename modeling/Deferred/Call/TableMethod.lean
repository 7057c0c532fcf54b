import Deferred.Call.SequenceMethod

/-!
# Methods of tables

The keys of a table are compared by value and have to be hashable.  Its keys, values and items can
be looked at as parts of it, which change with it.
-/

namespace Deferred.Action

/-- The fault of a key that can be none. -/
def checkKey (key : Value) : Action Unit := do
  if (← store).isKey key then done () else fail (.misuse .unhashable)

/-- The value of a key. -/
def entryOf? (entries : List (Value × Value)) (key : Value) : Action (Option Value) := do
  checkKey key
  return (← store).lookup? entries key

/-- Put entries into a table in turn. -/
def putEntries (sofar : List (Value × Value)) :
    List (Value × Value) → Action (List (Value × Value))
  | [] => return sofar
  | (key, value) :: rest => do
    checkKey key
    putEntries ((← store).putEntry sofar key value) rest

/-- Entries without those of a key. -/
def withoutKey (key : Value) (entries : List (Value × Value)) :
    Action (List (Value × Value)) := do
  let store ← store
  return entries.filter fun entry => !store.matching entry.1 key

/-- The two items of the pair at a place among those that a table is made from. -/
def pairAt (machine : Machine) (place : Nat) (pair : Value) : Action (Value × Value) := do
  match ← itemsOf machine pair with
  | [key, value] => return (key, value)
  | items => fail (.badValue ("dictionary update sequence element #" ++ toString place ++
      " has length " ++ toString items.length ++ "; 2 is required"))

/-- Put an entry into the table at a place in the store. -/
def putAt (place : Ref) (key value : Value) : Action Unit := do
  checkKey key
  let store ← store
  let entries := (store.entriesOf? (.object ClassId.dict place)).getD []
  perform (.setEntries place (store.putEntry entries key value))

/-- Put the pairs that a value gives out into a table in turn. -/
def putPairs (machine : Machine) (place : Ref) (pairs : Value) : Action Unit := do
  let _ ← foldItems machine (fun number pair => do
    let (key, value) ← pairAt machine number pair
    putAt place key value
    return number + 1) 0 pairs

/-- Put the values of keys into a table, as another value has them. -/
def putKeys (call : Caller) (place : Ref) (source : Value) : List Value → Action Unit
  | [] => done ()
  | key :: rest => do
    putAt place key (← item call source key)
    putKeys call place source rest

/-- Put the entries into a table that another value has: a table, a value with keys, or pairs. -/
def putFrom (machine : Machine) (place : Ref) (source : Value) : Action Unit := do
  match (← store).objectOf? source with
  | some (.dict entries) => forEach entries fun (key, value) => putAt place key value
  | _ =>
    if ← hasAttribute machine.call source "keys" then do
      let keys ← send machine.call source "keys" {}
      putKeys machine.call place source (← itemsOf machine keys)
    else putPairs machine place source

/-- Put the entries into a table that the arguments of a call give. -/
def putArguments (machine : Machine) (place : Ref) (sources : List Value) (named : Value) :
    Action Unit := do
  match sources with
  | [] => done ()
  | [source] => putFrom machine place source
  | _ => fail (.misuse .arguments)
  forEach ((← store).entriesOf? named |>.getD []) fun (key, value) => putAt place key value

/-- A new table of the entries that the arguments of a call give. -/
def tableFrom (machine : Machine) (sources : List Value) (named : Value) : Action Value := do
  let made ← newDict []
  match made with
  | .object _ place => do
    putArguments machine place sources named
    return made
  | _ => return made

/-- A part of a table. -/
def newPart (part : TablePart) (table : Value) : Action Value :=
  let className := match part with
    | .keys => "dict_keys"
    | .values => "dict_values"
    | .items => "dict_items"
  allocate (.declared "builtins" className) (.view part table)

/-- The methods of a table that do not change it; `none` for any other name. -/
def readTable? (receiver : Value) (place : Ref) (entries : List (Value × Value)) (name : String)
    (arguments : List Value) : Option (Action Value) :=
  match name, arguments with
  | "keys", [] => some (newPart .keys receiver)
  | "values", [] => some (newPart .values receiver)
  | "items", [] => some (newPart .items receiver)
  | "copy", [] => some (newDict entries)
  | "get", [key, default] => some do return (← entryOf? entries key).getD default
  | "__contains__", [key] => some do return .bool (← entryOf? entries key).isSome
  | "__reversed__", [] => some (iterateTable .keys place entries true)
  | _, _ => none

/-- The methods of a table; `none` for any other name. -/
def tableMethod? (machine : Machine) (receiver : Value) (place : Ref)
    (entries : List (Value × Value)) (name : String) (arguments : List Value) :
    Option (Action Value) :=
  let write (entries : List (Value × Value)) : Action Unit := perform (.setEntries place entries)
  match name, arguments with
  | "pop", [key, .tuple defaults _] => some do
    if 1 < defaults.length then fail (.misuse .arguments)
    match ← if entries.isEmpty then done none else entryOf? entries key, defaults with
    | some found, _ => do
      write (← withoutKey key entries)
      return found
    | none, default :: _ => return default
    | none, [] => fail (.keyMissing ((← store).describe key))
  | "popitem", [] => some do
    match entries.reverse with
    | (key, value) :: rest => do
      write rest.reverse
      fresh (.tuple [key, value])
    | [] => fail (.keyMissing (Text.quote "popitem(): dictionary is empty"))
  | "setdefault", [key, default] => some do
    match ← entryOf? entries key with
    | some found => return found
    | none => do
      write (entries ++ [(key, default)])
      return default
  | "update", [.tuple sources _, named] =>
    some (silently (putArguments machine place sources named))
  | "clear", [] => some (silently (write []))
  | "__setitem__", [key, value] => some (silently (putAt place key value))
  | "__delitem__", [key] => some do
    match ← entryOf? entries key with
    | some _ => silently do write (← withoutKey key entries)
    | none => fail (.keyMissing ((← store).describe key))
  | "__ior__", [other] => some do
    putFrom machine place other
    return receiver
  | name, arguments => readTable? receiver place entries name arguments

/-- A table of keys that all have one value. -/
def tableOfKeys (machine : Machine) (keys value : Value) : Action Value := do
  let keys ← itemsOf machine keys
  newDict (← putEntries [] (keys.map (·, value)))

/-- Does a part of a table hold a value? -/
def partHolds (machine : Machine) (part : TablePart) (entries : List (Value × Value))
    (value : Value) : Action Bool := do
  match part, value with
  | .keys, key => return (← entryOf? entries key).isSome
  | .values, value => return (← placeOf? machine value (entries.map Prod.snd)).isSome
  | .items, .tuple [key, value] _ => do
    match ← entryOf? entries key with
    | some found => agreeing machine found value
    | none => return false
  | .items, _ => return false

/-- Are none of the items that an iteration gives out in a value?  The first that is ends it. -/
def sharesNothing (machine : Machine) (holds : Value → Action Bool) (iteration : Value) :
    Nat → Action Bool
  | 0 => fail .outOfFuel
  | bound + 1 => do
    match ← next? machine iteration with
    | none => return true
    | some item =>
      if ← holds item then return false else sharesNothing machine holds iteration bound

/-- The methods of a part of a table; `none` for any other name. -/
def partMethod? (machine : Machine) (part : TablePart) (table : Value) (name : String)
    (arguments : List Value) : Option (Action Value) :=
  let entries : Action (List (Value × Value)) := do return ((← store).entriesOf? table).getD []
  match name, arguments with
  | "isdisjoint", [other] => some do
    let entries ← entries
    return .bool (← sharesNothing machine (partHolds machine part entries)
      (← iterate machine other) machine.bound)
  | "__contains__", [value] => some do
    return .bool (← partHolds machine part (← entries) value)
  | "__reversed__", [] => some do
    match table with
    | .object _ place => iterateTable part place (← entries) true
    | _ => fail (.misuse .notIterable)
  | _, _ => none

end Deferred.Action
