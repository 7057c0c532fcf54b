import Deferred.Fault
import Deferred.Store.Compare
import Deferred.Store.Members

/-!
# Values in answers

An instance of a class that a generation made is shown by its fields, which are asked for by the
mark of the class.  An instance that has none, or that hides them, cannot be shown, and neither can
anything that holds it.
-/

namespace Deferred

/-- The mark of classes that a generation made. -/
def generatedMark : String := "__commandify_generated__"

namespace Store

/-- Does a class bear the mark of those that a generation made? -/
def isMarked (store : Store) (id : ClassId) : Bool :=
  match store.find id generatedMark with
  | some (.value mark) => store.isTrue mark
  | _ => false

/-- What keeps a value from being shown in an answer, looking into it to a depth of at most
`bound`. -/
def unshownWithin (store : Store) : Nat → Value → Option Fault
  | 0, _ => none
  | bound + 1, value =>
    let inside (items : List Value) : Option Fault := items.findSome? (store.unshownWithin bound)
    match value with
    | .tuple items _ => inside items
    | .entity index _ => inside [index]
    | .success inner _ => inside [inner]
    | .failure inner _ => inside [inner]
    | .object id place =>
      match store.object? place with
      | some (.list items) => if store.isSubclass id ClassId.list then inside items else none
      | some (.dict entries) =>
        if store.isSubclass id ClassId.dict then
          inside (entries.flatMap fun (key, value) => [key, value])
        else none
      | some .plain =>
        if let some name := store.missingField? value then some (.noAttribute name)
        else if id.isComponent then inside [store.fieldValue value "value"]
        else if !store.isMarked id then none
        else if (store.ownAttribute? value "__dataclass_fields__").isSome then
          some (.noAttribute "values")
        else
          match store.fieldsOf? value with
          | some fields => inside (fields.map Prod.snd)
          | none => some (.misuse .operands)
      | _ => none
    | _ => none

/-- What keeps a value from being shown in an answer, if anything does. -/
def unshown? (store : Store) (value : Value) : Option Fault :=
  store.unshownWithin store.depthBound value

end Store

end Deferred
