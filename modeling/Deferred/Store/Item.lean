import Deferred.Hint.Resolve
import Deferred.Store.Arithmetic
import Deferred.Store.Attribute

/-!
# Items of values

Sequences have items by index and parts by slice, tables have values by key.  A part of a sequence
is a new sequence of the same kind; a sequence that never changes is its own whole part.
-/

namespace Deferred.Store

/-- A bound of a slice. -/
def sliceBound (store : Store) (value : Value) : Except Fault (Option Int) :=
  match value with
  | .absent => .ok none
  | value =>
    match Number.wholeOf? (store.plainOf value) with
    | some bound => .ok (some bound)
    | none => .error (.misuse .notIndexable)

/-- The slice that a value stands for. -/
def sliceOf (store : Store) (start stop step : Value) : Except Fault Slice := do
  let step ← store.sliceBound step
  if step = some 0 then throw (.badValue "slice step cannot be zero")
  let start ← store.sliceBound start
  let stop ← store.sliceBound stop
  return { start, stop, step := step.getD 1 }

/-- The position that an index means, which has to be one. -/
def positionOf (store : Store) (size : Nat) (index : Value) : Except Fault Nat :=
  match Number.wholeOf? (store.plainOf index) with
  | none => .error (.misuse .notIndexable)
  | some index =>
    match position? size index with
    | some place => .ok place
    | none => .error .badIndex

/-- An item of a sequence by its index, or a part of it by a slice.  `one` and `part` make values of
them, `whole` is the sequence. -/
def itemOrPart {α : Type} (store : Store) (whole : Value) (items : List α) (index : Value)
    (one : α → Computed) (part : List α → Computed) (keeps : Bool := true) :
    Except Fault Computed := do
  match index with
  | .slice start stop step _ =>
    let slice ← store.sliceOf start stop step
    return if keeps && slice.isWhole items.length then .same whole else part (slice.select items)
  | index =>
    match items[← store.positionOf items.length index]? with
    | some item => return one item
    | none => throw .badIndex

/-- An item of a range, or a part of it, which is a range again. -/
def rangeItem (store : Store) (start stop step : Int) (index : Value) : Except Fault Computed := do
  let size := rangeSize start stop step
  match index with
  | .slice first last stride _ =>
    let slice ← store.sliceOf first last stride
    let (low, high) := slice.bounds size
    return .fresh (.range (start + low * step) (start + high * step) (step * slice.step))
  | index => return .fresh (.int (start + (← store.positionOf size index : Nat) * step))

/-- The value of a key in a table. -/
def lookup? (store : Store) (entries : List (Value × Value)) (key : Value) : Option Value :=
  (entries.find? fun entry => store.matching entry.1 key).map Prod.snd

/-- An octet as a whole number. -/
def ofOctet (octet : UInt8) : Computed := .same (.ofInt octet.toNat)

/-- A character as a text of its own. -/
def ofCharacter (c : Char) : Computed := .same (.ofText (String.ofList [c]))

/-- An item of a value that is no type, by its index or key; `none` where a value has no items. -/
def item? (store : Store) (value index : Value) : Computation :=
  match store.plainOf value with
  | .tuple items mark =>
    some (store.itemOrPart (.tuple items mark) items index .same fun part => .fresh (.tuple part))
  | .text text mark =>
    some (store.itemOrPart (.text text mark) text.toList index ofCharacter fun part =>
      .fresh (.text (String.ofList part)))
  | .octets content mark =>
    some (store.itemOrPart (.octets content mark) content index ofOctet fun part =>
      .fresh (.octets part))
  | .range start stop step _ => some (store.rangeItem start stop step index)
  | .object id place =>
    match store.object? place with
    | some (.list items) =>
      if store.isSubclass id ClassId.list then
        some (store.itemOrPart value items index .same
          (fun part => .made ClassId.list (.list part)) false)
      else
        some ((store.positionOf items.length index).map fun place =>
          .same ((items[place]?).getD .absent))
    | some (.octets content) =>
      some (store.itemOrPart value content index ofOctet
        (fun part => .made ClassId.octetArray (.octets part)) false)
    | some (.dict entries) => some (
      if store.isKey index then
        match store.lookup? entries index with
        | some found => .ok (.same found)
        | none => .error (.keyMissing (store.describe index))
      else .error (.misuse .unhashable))
    | _ => none
  | _ => none

/-- What resolving an annotation knows of the values that are no types. -/
def hintScope (store : Store) (meaning : String → Option Value) : Hint.Scope where
  meaning
  variableCount id :=
    ((Entries.get? store.generated id).map fun declared => declared.typeVariables.length).bind
      fun count => if count = 0 then none else some count
  attribute? := store.attribute?
  items? := store.listOf?
  item? value index := (store.item? value index).map fun
    | .ok (.same found) => .ok found
    | .ok (.fresh make) => .ok (make 0)
    | .ok (.made _ _) => .error (.badKey value index)
    | .error .badIndex => .error .badIndex
    | .error (.keyMissing _) => .error (.keyMissing index)
    | .error (.misuse .unhashable) => .error (.unhashable index)
    | .error _ => .error (.badKey value index)

end Deferred.Store
