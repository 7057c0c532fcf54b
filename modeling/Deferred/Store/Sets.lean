import Deferred.Store.Hash

/-!
# Sets of values

The items that two sets have together, in common, or one without the other.  An item is in a set
when an item with the same digest equals it.
-/

namespace Deferred.Store

/-- Put the items of one set into another. -/
def joined (store : Store) (first second : Slots Value) : Slots Value :=
  first.merge second store.matching

/-- The items of two sets. -/
def unionOf (store : Store) (first second : Slots Value) : Slots Value :=
  store.joined first.copy second

/-- The items that are in both of two sets. -/
def sharedOf (store : Store) (first second : Slots Value) : Slots Value :=
  let (held, asked) := if first.size < second.size then (second, first) else (first, second)
  store.setOf (asked.toList.filter (store.hasMember held))

/-- Take items out of a set. -/
def lessening (store : Store) (first : Slots Value) (items : List Value) : Slots Value :=
  first.withoutAll store.matching (items.map fun item => ((store.digest item).toWord, item))

/-- The items that are in the first set and not in the second. -/
def withoutOf (store : Store) (first second : Slots Value) : Slots Value :=
  if first.size = 0 then first.copy
  else if second.size < first.size / 4 then store.lessening first.copy second.toList
  else store.setOf (first.toList.filter fun item => !store.hasMember second item)

/-- Put an item into a set, or take it out if it is there. -/
def toggled (store : Store) (slots : Slots Value) (item : Value) : Slots Value :=
  if store.hasMember slots item then store.withoutMember slots item
  else store.withMember slots item

/-- The items that are in one of two sets only. -/
def differingOf (store : Store) (first second : Slots Value) : Slots Value :=
  first.toList.foldl store.toggled second.copy

/-- What an operator makes of two sets. -/
def combineSets? (store : Store) (operator : BinaryOperator) (first second : Slots Value) :
    Option (Slots Value) :=
  match operator with
  | .either => some (store.unionOf first second)
  | .both => some (store.sharedOf first second)
  | .subtract => some (store.withoutOf first second)
  | .differing => some (store.differingOf first second)
  | _ => none

end Deferred.Store
