import Deferred.Call.TableMethod

/-!
# Methods of sets

Sets are combined with the items of any values.  A set that is looked for in another set stands for
one that cannot change.
-/

namespace Deferred.Action

/-- The fault of a member that can be none; a set is looked for as it is. -/
def checkMember (member : Value) : Action Unit := do
  if ((← store).slotsOf? member).isSome then done () else checkKey member

/-- Combine a set with the items of several values in turn. -/
def combineAll (combine : Slots Value → Value → Action (Slots Value)) (slots : Slots Value) :
    List Value → Action (Slots Value)
  | [] => return slots
  | source :: rest => do combineAll combine (← combine slots source) rest

/-- The items of two sets of which one is the items of a value. -/
def asSlots (machine : Machine) (source : Value) : Action (Slots Value) := do
  match (← store).slotsOf? source with
  | some slots => return slots
  | none => setFrom machine source

/-- What the items of other values make of a set; `none` for any other name. -/
def combinedSet? (machine : Machine) (slots : Slots Value) (name : String)
    (arguments : List Value) : Option (Action (Slots Value)) :=
  match name, arguments with
  | "union", [.tuple others _] =>
    some (combineAll (slotsFrom machine) slots.copy others)
  | "intersection", [.tuple others _] =>
    some (if others.isEmpty then return slots.copy
      else combineAll (slotsShared machine) slots others)
  | "difference", [.tuple others _] =>
    some (combineAll (fun sofar other => do
      match (← store).slotsOf? other with
      | some others => return (← store).withoutOf sofar others
      | none => slotsWithout machine sofar.copy other) slots.copy others)
  | "symmetric_difference", [other] => some do
    return (← store).differingOf slots (← setFrom machine other)
  | _, _ => none

/-- The methods of a set that compare it; `none` for any other name. -/
def compareSet? (machine : Machine) (slots : Slots Value) (name : String)
    (arguments : List Value) : Option (Action Value) :=
  let compare (operator : BinaryOperator) (other : Value) : Action Value := do
    let others ← asSlots machine other
    return .bool ((← store).inclusion operator slots.toList others.toList)
  let holds (member : Value) : Action Bool := do
    checkKey member
    return (← store).hasMember slots member
  match name, arguments with
  | "issubset", [other] => some (compare .atMost other)
  | "issuperset", [other] => some do
    if ((← store).slotsOf? other).isSome then compare .atLeast other
    else
      return .bool (← sharesNothing machine (fun member => do return !(← holds member))
        (← iterate machine other) machine.bound)
  | "isdisjoint", [other] => some do
    return .bool (← sharesNothing machine holds (← iterate machine other) machine.bound)
  | "__contains__", [value] => some do
    checkMember value
    return .bool ((← store).hasMember slots value)
  | _, _ => none

/-- Change the set at a place by several values in turn.  What was done before a fault stays. -/
def changeInTurn (place : Ref)
    (change : Slots Value → Value → Action (Reached (Slots Value))) :
    List Value → Action Unit
  | [] => done ()
  | source :: rest => do
    let slots := ((← store).slotsOf? (.object ClassId.set place)).getD {}
    let (slots, fault) ← change slots source
    perform (.setSlots place slots)
    raised fault
    changeInTurn place change rest

/-- The methods that change a set; `none` for any other name. -/
def changeSet? (machine : Machine) (receiver : Value) (place : Ref) (slots : Slots Value)
    (name : String) (arguments : List Value) : Option (Action Value) :=
  let write (slots : Slots Value) : Action Unit := perform (.setSlots place slots)
  -- An operator that puts its result back.
  let inPlace (other : Value) (combine : Action (Slots Value)) : Action Value := do
    if ((← store).slotsOf? other).isNone then return .declined
    else
      write (← combine)
      return receiver
  match name, arguments with
  | "add", [member] => some do
    checkKey member
    silently (write ((← store).withMember slots member))
  | "discard", [member] => some do
    checkMember member
    silently (write ((← store).withoutMember slots member))
  | "remove", [member] => some do
    checkMember member
    let store ← store
    if store.hasMember slots member then silently (write (store.withoutMember slots member))
    else fail (.keyMissing (store.describe member))
  | "pop", [] => some do
    match slots.pop? with
    | some (member, slots) => do
      write slots
      return member
    | none => fail (.keyMissing (Text.quote "pop from an empty set"))
  | "clear", [] => some (silently (write {}))
  | "update", [.tuple others _] =>
    some (silently (changeInTurn place (slotsBefore machine) others))
  | "intersection_update", [.tuple others _] => some do
    if others.isEmpty then return .absent
    else silently (write (← combineAll (slotsShared machine) slots others))
  | "difference_update", [.tuple others _] =>
    some (silently (changeInTurn place (slotsLessened machine) others))
  | "symmetric_difference_update", [other] =>
    some do silently (write (← slotsToggled machine slots other))
  | "__ior__", [other] => some (inPlace other (slotsFrom machine slots other))
  | "__iand__", [other] => some (inPlace other (slotsShared machine slots other))
  | "__isub__", [other] => some (inPlace other (slotsWithout machine slots other))
  | "__ixor__", [other] => some (inPlace other (slotsToggled machine slots other))
  | "__init__", [] => some (silently (write {}))
  | "__init__", [source] => some do
    write {}
    silently (changeInTurn place (slotsBefore machine) [source])
  | "__init__", _ => some (fail (.misuse .arguments))
  | _, _ => none

/-- The methods of a set; `none` for any other name. -/
def setMethod? (machine : Machine) (receiver : Value) (place : Ref) (slots : Slots Value)
    (name : String) (arguments : List Value) : Option (Action Value) :=
  let made (combined : Action (Slots Value)) : Action Value := do
    let combined ← combined
    allocate ((← store).setClass receiver) (.set combined)
  match combinedSet? machine slots name arguments, compareSet? machine slots name arguments with
  | some combined, _ => some (made combined)
  | none, some answer => some answer
  | none, none =>
    if name = "copy" && arguments.isEmpty then
      some do
        if (← store).isInstance receiver ClassId.frozenSet then return receiver
        else made (return slots.copy)
    else changeSet? machine receiver place slots name arguments

end Deferred.Action
