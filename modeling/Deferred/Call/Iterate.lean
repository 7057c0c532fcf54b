import Deferred.Call.Attribute
import Deferred.Store.Item

/-!
# Iteration

Items are taken one at a time, and what is iterated over may change in between.  A list gives out
what stands at the next position when it is asked; a table and a set have to keep their size.  A
query looks at the entities that were live when it was first asked, and gives out the component that
each of them holds when its turn comes.
-/

namespace Deferred.Action

/-- A text as the text of each of its characters. -/
def characters (text : String) : List Value :=
  text.toList.map fun c => .ofText (String.ofList [c])

/-- A new iteration of a class that is always there. -/
def newIteration (className : String) (cursor : Cursor) : Action Value :=
  allocate (.declared "builtins" className) (.iteration cursor)

/-- A new iteration that gives out items. -/
def iterationOf (className : String) (items : List Value) : Action Value :=
  newIteration className (.items items)

/-! ## Starting -/

/-- The name of the iterations over a part of a table, from its start or from its end. -/
def partIteration (part : TablePart) (backwards : Bool) : String :=
  "dict_" ++ (if backwards then "reverse" else "") ++ (match part with
    | .keys => "key"
    | .values => "value"
    | .items => "item") ++ "iterator"

/-- Start to iterate over a part of a table. -/
def iterateTable (part : TablePart) (place : Ref) (entries : List (Value × Value))
    (backwards : Bool := false) : Action Value :=
  let keys := entries.map Prod.fst
  newIteration (partIteration part backwards)
    (.table part place entries.length (if backwards then keys.reverse else keys))

/-- Start to iterate over a range. -/
def iterateRange (start stop step : Int) : Action Value :=
  let limit : Int := Text.twoPow 63
  let isShort := [start, stop, step].all fun bound => -limit ≤ bound && bound < limit
  newIteration (if isShort then "range_iterator" else "longrange_iterator")
    (.range start step (rangeSize start stop step))

/-- Start to iterate over a text. -/
def iterateText (text : String) : Action Value :=
  iterationOf (if text.toList.all (·.toNat < 128) then "str_ascii_iterator" else "str_iterator")
    (characters text)

/-- Octets as whole numbers. -/
def octetValues (content : List UInt8) : List Value :=
  content.map fun octet => .ofInt octet.toNat

/-- Can a value be asked for its next item? -/
def isIteration (store : Store) (value : Value) : Bool :=
  match store.objectOf? value with
  | some (.iteration _) => true
  | _ => (special? store value "__next__").isSome

/-- Start to iterate over a value, through at most `bound` values that stand in for others. -/
def iterateWithin (machine : Machine) : Nat → Value → Action Value
  | 0, _ => fail .outOfFuel
  | bound + 1, value => do
    let store ← store
    match special? store value "__iter__" with
    | some found => do
      let iteration ← callFound machine.call value found []
      if isIteration (← Action.store) iteration then return iteration
      else fail (.misuse .notIterable)
    | none =>
      match value with
      | .tuple items _ => iterationOf "tuple_iterator" items
      | .text text _ => iterateText text
      | .octets content _ => iterationOf "bytes_iterator" (octetValues content)
      | .range start stop step _ => iterateRange start stop step
      | .object id place =>
        match store.object? place with
        | some (.list items) =>
          if store.isSubclass id ClassId.list then
            allocate ClassId.listIterator (.iteration (.list place 0))
          else allocate (.declared "_collections" "_deque_iterator") (.iteration (.items items))
        | some (.dict entries) => iterateTable .keys place entries
        | some (.set slots) =>
          newIteration "set_iterator" (.set place slots.size slots.toList)
        | some (.view part table) =>
          match table, store.entriesOf? table with
          | .object _ target, some entries => iterateTable part target entries
          | _, _ => fail (.misuse .notIterable)
        | some (.octets content) => iterationOf "bytearray_iterator" (octetValues content)
        | some (.iteration _) => return value
        | some (.extended base) => iterateWithin machine bound base
        | _ =>
          if (special? store value "__getitem__").isSome then
            newIteration "iterator" (.indexed value 0)
          else if store.isSubclass id ClassId.query then do
            let pairs ← send machine.call value "items" {}
            allocate ClassId.generator (.iteration (.seconds (← iterateWithin machine bound pairs)))
          else fail (.misuse .notIterable)
      | _ => fail (.misuse .notIterable)

/-- Start to iterate over a value. -/
def iterate (machine : Machine) (value : Value) : Action Value :=
  iterateWithin machine machine.bound value

/-- Start to iterate over several values. -/
def iterateAll (machine : Machine) : List Value → Action (List Value)
  | [] => return []
  | value :: rest => do
    let iteration ← iterate machine value
    return iteration :: (← iterateAll machine rest)

/-! ## Taking items -/

/-- The items of a pair. -/
def pairItems? (store : Store) (pair : Value) : Option (List Value) :=
  match pair with
  | .tuple items _ => some items
  | value => store.listOf? value

/-- The second part of a pair. -/
def secondOf (store : Store) (pair : Value) : Action Value :=
  match pairItems? store pair with
  | some [_, second] => done second
  | some items =>
    fail (.badValue (if items.length < 2 then
        "not enough values to unpack (expected 2, got " ++ toString items.length ++ ")"
      else "too many values to unpack (expected 2)"))
  | none => fail (.misuse .notIterable)

/-- The next item of an object whose class has a method for that. -/
def nextSpecial (call : Caller) (iteration : Value) : Action (Option Value) := do
  match ← attempt (callSpecial? call iteration "__next__" []) with
  | .ok (some item) => return some item
  | .ok none => fail (.misuse .notIterable)
  | .error fault => if fault.kind = "StopIteration" then return none else fail fault

/-- The next item by index, if there is one. -/
def nextIndexed (call : Caller) (target : Value) (position : Nat) : Action (Option Value) := do
  match ← attempt (callSpecial? call target "__getitem__" [.ofInt position]) with
  | .ok found => return found
  | .error fault =>
    if ["IndexError", "StopIteration"].contains fault.kind then return none else fail fault

/-- The next items of several iterations, given how to take one: all of them, or the number of the
iteration that has none left. -/
def nextOfAll (next : Value → Action (Option Value)) :
    List Value → Action (Except Nat (List Value))
  | [] => return .ok []
  | source :: rest => do
    match ← next source with
    | none => return .error 0
    | some item =>
      match ← nextOfAll next rest with
      | .ok items => return .ok (item :: items)
      | .error place => return .error (place + 1)

/-- The place of the first of several iterations that has an item left. -/
def firstLeft (next : Value → Action (Option Value)) : List Value → Action (Option Nat)
  | [] => return none
  | source :: rest => do
    match ← next source with
    | some _ => return some 0
    | none => return (← firstLeft next rest).map (· + 1)

/-- The fault of iterations that should have given out as many items as those before them. -/
def unevenFault (place : Nat) (comparison : String) : Fault :=
  .badValue ("zip() argument " ++ toString (place + 1) ++ " is " ++ comparison ++ " than argument" ++
    (if place = 1 then " " else "s 1-") ++ toString place)

/-- The next items of iterations side by side, as a tuple. -/
def nextZipped (next : Value → Action (Option Value)) (strict : Bool) (sources : List Value) :
    Action (Option Value) := do
  if sources.isEmpty then return none
  else
    match ← nextOfAll next sources with
    | .ok items => return some (← fresh (.tuple items))
    | .error 0 => do
      if strict then
        match ← firstLeft next (sources.drop 1) with
        | some place => fail (unevenFault (place + 1) "longer")
        | none => return none
      else return none
    | .error place => if strict then fail (unevenFault place "shorter") else return none

/-- What a part of a table gives out for an entry. -/
def partItem (part : TablePart) (key value : Value) : Action Value :=
  match part with
  | .keys => return key
  | .values => return value
  | .items => fresh (.tuple [key, value])

/-- The fault of something that changed while it was iterated over. -/
def changedFault (kind : String) : Fault :=
  .foreign "RuntimeError" (kind ++ " changed size during iteration")

/-- The next entry of a table that is still there, and the keys behind it. -/
def nextEntry? (store : Store) (entries : List (Value × Value)) :
    List Value → Option ((Value × Value) × List Value)
  | [] => none
  | key :: rest =>
    match store.lookup? entries key with
    | some value => some ((key, value), rest)
    | none => nextEntry? store entries rest

/-- Is a value the same as another, or equal to it by what the classes of the two say? -/
def agrees (call : Caller) (first second : Value) : Action Bool := do
  if Value.same first second then return true
  else
    match ← callSpecial? call first "__eq__" [second] with
    | some (.bool answer) => return answer
    | _ => return (← store).equal first second

/-- The next item of an iteration, if there is one, after at most `bound` steps. -/
def nextWithin (machine : Machine) : Nat → Value → Action (Option Value)
  | 0, _ => fail .outOfFuel
  | bound + 1, iteration => do
    let store ← store
    let next := nextWithin machine bound
    match iteration with
    | .object _ place =>
      let finish : Action (Option Value) := do
        perform (.advance place (.items []))
        return none
      let give (cursor : Cursor) (item : Value) : Action (Option Value) := do
        perform (.advance place cursor)
        return some item
      match store.object? place with
      | some (.iteration (.items [])) => return none
      | some (.iteration (.items (item :: rest))) => give (.items rest) item
      | some (.iteration (.list target position)) =>
        match (store.listOf? (.object ClassId.list target)).bind (·[position]?) with
        | some item => give (.list target (position + 1)) item
        | none => finish
      | some (.iteration (.listBack target left)) =>
        match left, store.listOf? (.object ClassId.list target) with
        | left + 1, some items =>
          match items[left]? with
          | some item => give (.listBack target left) item
          | none => finish
        | _, _ => finish
      | some (.iteration (.table part target size rest)) => do
        let entries := (store.entriesOf? (.object ClassId.dict target)).getD []
        if entries.length ≠ size then fail (changedFault "dictionary")
        match nextEntry? store entries rest with
        | some ((key, value), rest) =>
          give (.table part target size rest) (← partItem part key value)
        | none => finish
      | some (.iteration (.set target size rest)) =>
        match rest, store.slotsOf? (.object ClassId.set target) with
        | rest, some slots =>
          if slots.size ≠ size then fail (changedFault "Set")
          else match rest with
            | item :: rest => give (.set target size rest) item
            | [] => finish
        | _, none => finish
      | some (.iteration (.range _ _ 0)) => return none
      | some (.iteration (.range first step (left + 1))) => do
        give (.range (first + step) step left) (← fresh (.int first))
      | some (.iteration (.numbered source number)) => do
        match ← next source with
        | some item => give (.numbered source (number + 1)) (← fresh (.tuple [.ofInt number, item]))
        | none => return none
      | some (.iteration (.zipped sources strict)) => nextZipped next strict sources
      | some (.iteration (.mapped function sources)) => do
        match ← nextOfAll next sources with
        | .ok items => return some (← machine.call function (.ofList items))
        | .error _ => return none
      | some (.iteration (.kept function source)) => do
        match ← next source with
        | none => return none
        | some item => do
          let answer ← match function with
            | .absent => done item
            | function => machine.call function (.ofList [item])
          if store.isTrue answer then return some item else next iteration
      | some (.iteration (.answers function last)) => do
        match ← attempt (machine.call function {}) with
        | .ok answer =>
          if ← agrees machine.call answer last then finish else return some answer
        | .error fault => if fault.kind = "StopIteration" then finish else fail fault
      | some (.iteration (.indexed target position)) => do
        match ← nextIndexed machine.call target position with
        | some item => give (.indexed target (position + 1)) item
        | none => finish
      | some (.iteration (.query query)) => do
        perform (.advance place (.items []))
        let world ← getAttribute machine.call query "_world"
        let entities ← iterate machine (← send machine.call world "entities" {})
        perform (.advance place (.running query entities))
        next iteration
      | some (.iteration (.running query entities)) => do
        perform (.advance place (.items []))
        match ← next entities with
        | none => return none
        | some entity => do
          let world ← getAttribute machine.call query "_world"
          let get ← getAttribute machine.call world "get"
          let component ← getAttribute machine.call query "_component"
          let value ← machine.call get (.ofList [entity, component])
          perform (.advance place (.running query entities))
          match value with
          | .absent => next iteration
          | value => return some (← fresh (.tuple [entity, value]))
      | some (.iteration (.seconds pairs)) => do
        perform (.advance place (.items []))
        match ← next pairs with
        | none => return none
        | some pair => do
          let second ← secondOf (← Action.store) pair
          give (.seconds pairs) second
      | _ => nextSpecial machine.call iteration
    | iteration => nextSpecial machine.call iteration

/-- The next item of an iteration, if there is one. -/
def next? (machine : Machine) (iteration : Value) : Action (Option Value) :=
  nextWithin machine machine.bound iteration

/-- Run a step for each item that an iteration still gives out, at most `bound` items. -/
def eachItem (machine : Machine) (step : Value → Action Unit) (iteration : Value) :
    Nat → Action Unit
  | 0 => fail .outOfFuel
  | bound + 1 => do
    match ← next? machine iteration with
    | none => done ()
    | some item =>
      step item
      eachItem machine step iteration bound

/-- The items that an iteration still gives out, at most `bound` items, behind those that it gave
out before, the last one first. -/
def remaining (machine : Machine) (iteration : Value) : Nat → List Value → Action (List Value)
  | 0, _ => fail .outOfFuel
  | bound + 1, sofar => do
    match ← next? machine iteration with
    | none => return sofar.reverse
    | some item => remaining machine iteration bound (item :: sofar)

/-- The fault that ended something, if one did. -/
def raised : Option Fault → Action Unit
  | none => done ()
  | some fault => fail fault

/-- The most items that a value is asked for at once. -/
def itemLimit : Nat := Text.twoPow 24

/-- The items of a value that are all there at once. -/
def givenItems? (store : Store) (value : Value) : Option (List Value) :=
  match value with
  | .tuple items _ => some items
  | .text text _ => some (characters text)
  | .octets content _ => some (octetValues content)
  | .range start stop step _ =>
    let size := rangeSize start stop step
    if size ≤ itemLimit then
      some ((List.range size).map fun n : Nat => .ofInt (start + n * step))
    else none
  | value => if value.classId = ClassId.list then store.listOf? value else none

/-- The items of a value. -/
def itemsOf (machine : Machine) (value : Value) : Action (List Value) := do
  match givenItems? (← store) value, value with
  | some items, _ => return items
  | none, .range start stop step _ =>
    fail (if Store.fitsSize (rangeSize start stop step) then .foreign "MemoryError" ""
      else Store.unfitSize)
  | none, value => remaining machine (← iterate machine value) machine.bound []

/-! ## Steps for each item -/

/-- What some steps came to, and the fault that ended them, if one did. -/
abbrev Reached (α : Type) := α × Option Fault

/-- Run a step for each of some items, from what the step before it came to, up to the first fault. -/
def foldEach {α : Type} (step : α → Value → Action α) : α → List Value → Action (Reached α)
  | sofar, [] => return (sofar, none)
  | sofar, item :: rest => do
    match ← attempt (step sofar item) with
    | .ok next => foldEach step next rest
    | .error fault => return (sofar, some fault)

/-- Run a step for each item that an iteration still gives out, at most `bound` items, from what the
step before it came to, up to the first fault. -/
def foldRemaining {α : Type} (machine : Machine) (step : α → Value → Action α)
    (iteration : Value) : Nat → α → Action (Reached α)
  | 0, sofar => return (sofar, some .outOfFuel)
  | bound + 1, sofar => do
    match ← attempt (next? machine iteration) with
    | .error fault => return (sofar, some fault)
    | .ok none => return (sofar, none)
    | .ok (some item) =>
      match ← attempt (step sofar item) with
      | .error fault => return (sofar, some fault)
      | .ok next => foldRemaining machine step iteration bound next

/-- Run a step for each item of a value, which is asked for an item when the step before it is done,
up to the first fault. -/
def foldUntil {α : Type} (machine : Machine) (step : α → Value → Action α) (start : α)
    (value : Value) : Action (Reached α) := do
  match givenItems? (← store) value with
  | some items => foldEach step start items
  | none => foldRemaining machine step (← iterate machine value) machine.bound start

/-- Run a step for each item of a value. -/
def foldItems {α : Type} (machine : Machine) (step : α → Value → Action α) (start : α)
    (value : Value) : Action α := do
  let (reached, fault) ← foldUntil machine step start value
  raised fault
  return reached

/-- What a step makes of each item of a value, up to the first fault. -/
def mapUntil {α : Type} (machine : Machine) (step : Value → Action α) (value : Value) :
    Action (Reached (List α)) := do
  let (reached, fault) ← foldUntil machine (fun sofar item => do
    return (← step item) :: sofar) [] value
  return (reached.reverse, fault)

/-! ## Lengths and truth -/

/-- The number that a method for the length answers with. -/
def asLength (answer : Value) : Action Int := do
  match Number.wholeOf? ((← store).plainOf answer) with
  | some length =>
    if length < 0 then fail (.badValue "__len__() should return >= 0")
    else if Store.fitsSize length then return length
    else fail Store.unfitIndex
  | none => fail (.misuse .noLength)

/-- How many items a value has by what it is, if that can be told from the value alone. -/
def knownLength? (store : Store) (value : Value) : Option Nat :=
  match store.plainOf value with
  | .text text _ => some text.length
  | .tuple items _ => some items.length
  | .octets content _ => some content.length
  | .range start stop step _ => some (rangeSize start stop step)
  | .object _ place =>
    match store.object? place with
    | some (.list items) => some items.length
    | some (.dict entries) => some entries.length
    | some (.set slots) => some slots.size
    | some (.view _ table) => (store.entriesOf? table).map List.length
    | some (.octets content) => some content.length
    | some (.queue pending) => some pending.length
    | _ => none
  | _ => none

/-- How many items a value has by what it is. -/
def lengthWithin (machine : Machine) (value : Value) : Action Int := do
  let store ← store
  match knownLength? store value with
  | some length => if Store.fitsSize length then return length else fail Store.unfitSize
  | none =>
    if store.isSubclass value.classId ClassId.query then do
      return (← itemsOf machine (← send machine.call value "items" {})).length
    else fail (.misuse .noLength)

/-- How many items a value has, if it can tell. -/
def lengthOf (machine : Machine) (value : Value) : Action Int := do
  match ← callSpecial? machine.call value "__len__" [] with
  | some answer => asLength answer
  | none => lengthWithin machine value

/-- Does a value count as true? -/
def truth (machine : Machine) (value : Value) : Action Bool := do
  match ← callSpecial? machine.call value "__bool__" [] with
  | some (.bool answer) => return answer
  | some _ => fail (.misuse .operands)
  | none =>
    let store ← store
    match special? store value "__len__" with
    | some found => return (← asLength (← callFound machine.call value found [])) ≠ 0
    | none =>
      if store.isSubclass value.classId ClassId.query then
        return (← lengthWithin machine value) ≠ 0
      else return store.isTrue value

end Deferred.Action
