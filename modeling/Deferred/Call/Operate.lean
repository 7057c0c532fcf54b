import Deferred.Call.Template

/-!
# Operators and membership

What an operator does is first up to the classes of its operands, where a special method was put on
them, and else up to what the operands are.  A method can leave the matter to the other operand.
-/

namespace Deferred.Action

/-! ## Parts of tables as sets -/

/-- A value that can be a member of a set. -/
def asMember (value : Value) : Action Value := do
  if (← store).isKey value then done value else fail (.misuse .unhashable)

/-- Put the items of a value into a set, up to the first that cannot be had or that can be no member,
and the fault of that one. -/
def slotsBefore (machine : Machine) (slots : Slots Value) (source : Value) :
    Action (Reached (Slots Value)) := do
  let store ← store
  match store.slotsOf? source with
  | some others => return (store.joined slots others, none)
  | none => do
    let (items, fault) ← mapUntil machine asMember source
    return (items.foldl (← Action.store).withMember slots, fault)

/-- Put the items of a value into a set. -/
def slotsFrom (machine : Machine) (slots : Slots Value) (source : Value) :
    Action (Slots Value) := do
  let (slots, fault) ← slotsBefore machine slots source
  raised fault
  return slots

/-- A new set of the items of a value. -/
def setFrom (machine : Machine) (source : Value) : Action (Slots Value) :=
  slotsFrom machine {} source

/-- Take the items of a value out of a set, up to the first that cannot be had or that can be no
member, and the fault of that one. -/
def slotsLessened (machine : Machine) (slots : Slots Value) (source : Value) :
    Action (Reached (Slots Value)) := do
  let (items, fault) ← mapUntil machine asMember source
  return ((← store).lessening slots items, fault)

/-- Take the items of a value out of a set. -/
def slotsWithout (machine : Machine) (slots : Slots Value) (source : Value) :
    Action (Slots Value) := do
  let (slots, fault) ← slotsLessened machine slots source
  raised fault
  return slots

/-- A set with the items put in that it lacks and those taken out that it has. -/
def slotsToggled (machine : Machine) (slots : Slots Value) (source : Value) :
    Action (Slots Value) := do
  let others ← setFrom machine source
  let store ← store
  return others.toList.foldl store.toggled slots

/-- The items of a value that are in a set. -/
def slotsShared (machine : Machine) (slots : Slots Value) (source : Value) :
    Action (Slots Value) := do
  let store ← store
  match store.slotsOf? source with
  | some others => return store.sharedOf slots others
  | none => do
    let (items, fault) ← mapUntil machine asMember source
    raised fault
    let store ← Action.store
    return store.setOf (items.filter (store.hasMember slots))

/-- Is a value a part of a table that counts as a set? -/
def isSetPart (store : Store) (value : Value) : Bool :=
  match store.objectOf? value with
  | some (.view .values _) => false
  | some (.view _ _) => true
  | _ => false

/-- The items that two values have in common, of which the first is a part of a table.  Those of the
smaller one are looked at in turn. -/
def sharedWithPart (machine : Machine) (part other : Value) : Action (Slots Value) := do
  let store ← store
  let size (value : Value) : Nat := (knownLength? store value).getD 0
  match store.slotsOf? other with
  | some others =>
    if size part ≤ size other then slotsShared machine others part
    else slotsShared machine (← setFrom machine part) other
  | none =>
    let (held, asked) := if isSetPart store other && size part < size other then (other, part)
      else (part, other)
    slotsShared machine (← setFrom machine held) asked

/-- An operator of which an operand is a part of a table that counts as a set. -/
def operateParts? (machine : Machine) (operator : BinaryOperator) (first second : Value) :
    Action (Option Value) := do
  let store ← store
  if !(isSetPart store first || isSetPart store second) then return none
  else
    let made (slots : Slots Value) : Action (Option Value) := do
      return some (← allocate ClassId.set (.set slots))
    match operator with
    | .subtract => do made (← slotsWithout machine (← setFrom machine first) second)
    | .either => do made (← slotsFrom machine (← setFrom machine first) second)
    | .differing => do made (← slotsToggled machine (← setFrom machine first) second)
    | .both => do
      if isSetPart store first then made (← sharedWithPart machine first second)
      else made (← sharedWithPart machine second first)
    | _ => return none

/-! ## Operators -/

/-- A sequence repeated as often as an index says that the class of the other operand makes of it;
`none` where there is no such index. -/
def repeated? (call : Caller) (store : Store) (first second : Value) : Action (Option Value) := do
  let (sequence, count) := if isNumbered store first then (first, second) else (second, first)
  if isNumbered store sequence && (special? store count "__index__").isSome then
    let count ← indexed call count
    match (← Action.store).operate? .multiply sequence count with
    | some (.ok result) => return some (← computed result)
    | some (.error fault) => fail fault
    | none => return none
  else return none

/-- The outcome of an operator on two values by what they are; `none` where it does not take
them. -/
def operated? (machine : Machine) (operator : BinaryOperator) (computation : Computation)
    (first second : Value) : Action (Option Value) := do
  match computation with
  | some (.ok result) => return some (← computed result)
  | some (.error fault) => fail fault
  | none => do
    let store ← store
    let template := store.plainOf first
    if operator = .remainder && isTemplate store template then
      return some (← fillFromValues machine.call template second)
    else if operator = .multiply then repeated? machine.call store first second
    else operateParts? machine operator first second

/-- Apply an operator by what the operands are. -/
def operatePlain (machine : Machine) (operator : BinaryOperator) (first second : Value) :
    Action Value := do
  let computation := (← store).operate? operator first second
  orFail (.misuse .operands) (← operated? machine operator computation first second)

/-- What an operand says to an operator by a method that was put on its class; `none` where it leaves
the matter to the other one.  Being unequal is not being equal, unless it has a method of its
own. -/
def askOperand (machine : Machine) (method : String) (operand other : Value) :
    Action (Option Value) := do
  let kept (answer : Value) : Option Value := match answer with
    | .declined => none
    | answer => some answer
  match ← callSpecial? machine.call operand method [other] with
  | some answer => return kept answer
  | none =>
    if method = "__ne__" then
      match ← callSpecial? machine.call operand "__eq__" [other] with
      | some .declined => return none
      | some answer => return some (.bool !(← truth machine answer))
      | none => return none
    else return none

/-- Was a method put on the class of a value that speaks for an operator? -/
def speaks (store : Store) (value : Value) (method : String) : Bool :=
  (special? store value method).isSome ||
    (method = "__ne__" && (special? store value "__eq__").isSome)

/-- Apply an operator of which an operand has a method of its own for it. -/
def operateSpecial (machine : Machine) (operator : BinaryOperator) (first second : Value) :
    Action Value := do
  let store ← store
  let (method, exchanged) := operator.methodNames
  let isSame := first.classId = second.classId
  let isBelow := !isSame && store.isSubclass second.classId first.classId
  let askFirst := askOperand machine method first second
  let askSecond : Action (Option Value) :=
    if isSame && !operator.compares then return none
    else askOperand machine exchanged second first
  let (early, late) := if isBelow && speaks store second exchanged then (askSecond, askFirst)
    else (askFirst, askSecond)
  match ← early with
  | some answer => return answer
  | none =>
    match ← late with
    | some answer => return answer
    | none =>
      if !speaks store first method then operatePlain machine operator first second
      else
        match operator with
        | .equal => return .bool (Value.same first second)
        | .unequal => return .bool !(Value.same first second)
        | _ => fail (.misuse .operands)

/-! ## Comparing values by their parts -/

/-- Is there a class that a method for comparisons was put on? -/
def hasOwnComparison (store : Store) : Bool :=
  store.attributes.any fun (_, bindings) =>
    bindings.any fun (name, _) =>
      ((BinaryOperator.ofMethod? name).map BinaryOperator.compares).getD false

/-- The items that two values are compared by in turn; `settled` says whether they are asked only
whether they are equal. -/
def comparedItems? (store : Store) (settled : Bool) (first second : Value) :
    Option (List Value × List Value) :=
  match first, second with
  | .entity a _, .entity b _ => some ([a], [b])
  | .success a _, .success b _ => if settled then some ([a], [b]) else none
  | .failure a _, .failure b _ => if settled then some ([a], [b]) else none
  | first, second =>
    match store.sequenceOf? first, store.sequenceOf? second with
    | some (kind, as), some (other, bs) => if kind = other then some (as, bs) else none
    | _, _ =>
      if settled && first.classId = second.classId then
        match store.fieldsOf? first, store.fieldsOf? second with
        | some as, some bs => some (as.map Prod.snd, bs.map Prod.snd)
        | _, _ => none
      else none

/-- The first two items at one place that are neither the same nor equal. -/
def firstDiffering (equal : Value → Value → Action Bool) :
    List Value → List Value → Action (Option (Value × Value))
  | a :: as, b :: bs => do
    if ← if Value.same a b then done true else equal a b then firstDiffering equal as bs
    else return some (a, b)
  | _, _ => return none

/-- Do the entries of a table agree with those of another? -/
def sameEntries (equal : Value → Value → Action Bool) (others : List (Value × Value)) :
    List (Value × Value) → Action Bool
  | [] => return true
  | (key, value) :: rest => do
    match (← store).lookup? others key with
    | some other =>
      if ← if Value.same other value then done true else equal other value then
        sameEntries equal others rest
      else return false
    | none => return false

/-- Compare two values that may hold others whose classes have methods for it, looking into them to a
depth of at most `bound`. -/
def compareWithin (machine : Machine) : Nat → BinaryOperator → Value → Value → Action Value
  | 0, _, _, _ => fail .outOfFuel
  | bound + 1, operator, first, second => do
    let store ← store
    let (method, exchanged) := operator.methodNames
    let settled := operator = .equal || operator = .unequal
    let equal (a b : Value) : Action Bool := do
      truth machine (← compareWithin machine bound .equal a b)
    if speaks store first method || speaks store second exchanged then
      operateSpecial machine operator first second
    else
      match comparedItems? store settled first second with
      | some (as, bs) =>
        if settled && as.length ≠ bs.length then return .bool (operator = .unequal)
        match (store.missingField? first).or (store.missingField? second) with
        | some name => fail (.noAttribute name)
        | none =>
          match ← firstDiffering equal as bs with
          | none => return .bool (operator.holds (compare as.length bs.length))
          | some (a, b) =>
            if settled then return .bool (operator = .unequal)
            else compareWithin machine bound operator a b
      | none =>
        match if settled then store.entriesOf? first else none, store.entriesOf? second with
        | some as, some bs =>
          let agrees ← if as.length = bs.length then sameEntries equal bs as else done false
          return .bool (agrees = (operator = .equal))
        | _, _ => operatePlain machine operator first second

/-- Does a comparison of two values have to look at their parts one by one? -/
def comparesByParts (store : Store) (first second : Value) : Bool :=
  hasOwnComparison store || (store.missingField? first).isSome ||
    (store.missingField? second).isSome

/-- Apply an operator. -/
def operate (machine : Machine) (operator : BinaryOperator) (first second : Value) :
    Action Value := do
  let store ← store
  let (method, exchanged) := operator.methodNames
  if speaks store first method || speaks store second exchanged then
    operateSpecial machine operator first second
  else if operator.compares && comparesByParts store first second then
    compareWithin machine machine.bound operator first second
  else operatePlain machine operator first second

/-- Does a comparison hold of two values? -/
def holdsOf (machine : Machine) (operator : BinaryOperator) (first second : Value) :
    Action Bool := do
  truth machine (← operate machine operator first second)

/-- Is a value the same as another, or equal to it? -/
def agreeing (machine : Machine) (first second : Value) : Action Bool :=
  if Value.same first second then return true else holdsOf machine .equal first second

/-! ## Membership in classes -/

/-- Is a class, or one of several, the class that a question asks for?  The first that fits ends the
search.  What is no class can be asked for if `otherwise` has an answer for it. -/
def anyClass (asks : ClassId → Action Bool) (otherwise : Value → Action (Option Value)) :
    Nat → List Value → Action Bool
  | 0, _ => fail .outOfFuel
  | _, [] => return false
  | bound + 1, type :: rest => do
    let found ← match type with
      | .cls id => if id = ClassId.any then fail (.misuse .notAClass) else asks id
      | .tuple types _ => anyClass asks otherwise bound types
      | .optional inner => anyClass asks otherwise bound [inner, .nothing]
      | type => do
        match ← otherwise type with
        | some answer => done ((← store).isTrue answer)
        | none => fail (.misuse .notAClass)
    if found then return true else anyClass asks otherwise bound rest

/-- Is a value an instance of a class, or of one of several? -/
def isInstanceOf (machine : Machine) (value type : Value) : Action Bool := do
  let store ← store
  let otherwise (type : Value) : Action (Option Value) :=
    callSpecial? machine.call type "__instancecheck__" [value]
  if type.isClass value.classId then return true
  else anyClass (fun id => return store.isInstance value id) otherwise machine.bound [type]

/-- Is a class below another, or below one of several? -/
def isSubclassOf (machine : Machine) (value type : Value) : Action Bool := do
  let store ← store
  let asks (parent : ClassId) : Action Bool := match value with
    | .cls id => return store.isSubclass id parent
    | _ => fail (.misuse .notAClass)
  let otherwise (type : Value) : Action (Option Value) :=
    callSpecial? machine.call type "__subclasscheck__" [value]
  anyClass asks otherwise machine.bound [type]

/-! ## Calls that wait for more arguments -/

/-- A call with some of its arguments given beforehand.  Arguments given to such a call are added to
those it has. -/
def partially (function : Value) (arguments : Arguments) : Action Value := do
  let store ← store
  match store.objectOf? function with
  | some (.partialCall inner positional keywords) =>
    allocate ClassId.partialCall (.partialCall inner (positional ++ arguments.positional)
      (Entries.putAll keywords arguments.keywords))
  | _ =>
    if store.isCallable function then
      allocate ClassId.partialCall (.partialCall function arguments.positional arguments.keywords)
    else fail (.misuse .notCallable)

end Deferred.Action
