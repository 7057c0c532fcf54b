import Deferred.Number.Operation
import Deferred.Store.Sets

/-!
# Operators on values

What an operator makes of two values by what they are: numbers are computed with, text and
sequences of one kind are joined, or repeated a whole number of times, sets are combined, and tables
are put over one another.  An operator that does not take two values leaves them to others.
-/

namespace Deferred

/-- What an operator came to. -/
inductive Computed where
  /-- A value that was there before. -/
  | same (value : Value)
  /-- A new value, made with the mark it is given. -/
  | fresh (make : Mark → Value)
  /-- A new object of a class. -/
  | made (id : ClassId) (object : Object)
  deriving Inhabited

/-- The outcome of an operator; `none` where it does not take the values. -/
abbrev Computation := Option (Except Fault Computed)

namespace Computation

/-- A value that was there before. -/
def same (value : Value) : Computation := some (.ok (.same value))

/-- A new value. -/
def fresh (make : Mark → Value) : Computation := some (.ok (.fresh make))

/-- A new object. -/
def made (id : ClassId) (object : Object) : Computation := some (.ok (.made id object))

/-- A fault. -/
def failed (fault : Fault) : Computation := some (.error fault)

end Computation

namespace Store

open Computation

/-- The outcome of an operator on numbers as a value. -/
def ofOutcome : Number.Outcome → Computed
  | .one number => .fresh number.toValue
  | .two first second => .fresh (.tuple [first.toValue 0, second.toValue 0])
  | .truth value => .same (.bool value)

/-- An operator on two numbers; that of bits on two truth values is a truth value. -/
def onNumbers (operator : BinaryOperator) (first second : Value) (a b : Number) : Computation :=
  match operator, first, second with
  | .both, .bool a, .bool b => same (.bool (a && b))
  | .either, .bool a, .bool b => same (.bool (a || b))
  | .differing, .bool a, .bool b => same (.bool (a != b))
  | _, _, _ => (Number.apply operator a b).map fun outcome => outcome.map ofOutcome

/-! ## Sequences -/

/-- The largest size of a sequence. -/
def sizeLimit : Nat := Text.twoPow 63

/-- Does a whole number fit where a size is asked for? -/
def fitsSize (count : Int) : Bool := -(sizeLimit : Int) ≤ count && count < sizeLimit

/-- The fault of a number that is too large for an index. -/
def unfitIndex : Fault := .foreign "OverflowError" "cannot fit 'int' into an index-sized integer"

/-- The fault of a number that is too large for a size. -/
def unfitSize : Fault :=
  .foreign "OverflowError" "Python int too large to convert to C ssize_t"

/-- Items repeated a number of times. -/
def repeated {α : Type} (count : Int) (items : List α) : List α :=
  if items.isEmpty then [] else (List.replicate count.toNat items).flatten

/-- Items repeated a number of times, if the result is not too large; `tooLong` is the fault of one
that no sequence can be as long as. -/
def repeatedWithin {α : Type} (tooLong : Fault) (count : Int) (items : List α) :
    Except Fault (List α) :=
  if sizeLimit ≤ items.length * count.toNat then .error tooLong
  else if Text.twoPow 36 ≤ items.length * count.toNat then .error (.foreign "MemoryError" "")
  else .ok (repeated count items)

/-- Repeat a sequence.  Once is the sequence itself, where it never changes. -/
def repeat? (store : Store) (value : Value) (count : Int) : Computation :=
  let noRoom : Fault := .foreign "MemoryError" ""
  let tooLong (kind : String) : Fault :=
    .foreign "OverflowError" ("repeated " ++ kind ++ " too long")
  match value with
  | .text text _ =>
    if !fitsSize count then failed unfitIndex
    else if count = 1 then same value
    else some ((repeatedWithin (tooLong "string is") count text.toList).map fun letters =>
      .fresh (.text (String.ofList letters)))
  | .tuple items _ =>
    if !fitsSize count then failed unfitIndex
    else if count = 1 || items.isEmpty then same value
    else some ((repeatedWithin noRoom count items).map fun items => .fresh (.tuple items))
  | .octets content _ =>
    if !fitsSize count then failed unfitIndex
    else if count = 1 then same value
    else some ((repeatedWithin (tooLong "bytes are") count content).map fun content =>
      .fresh (.octets content))
  | value =>
    match store.objectOf? value with
    | some (.list items) =>
      if !fitsSize count then failed unfitIndex
      else some ((repeatedWithin noRoom count items).map fun items =>
        .made ClassId.list (.list items))
    | some (.octets content) =>
      if !fitsSize count then failed unfitIndex
      else some ((repeatedWithin noRoom count content).map fun content =>
        .made ClassId.octetArray (.octets content))
    | _ => none

/-- Two sequences of one kind joined.  Joining nothing leaves a value as it is. -/
def join? (store : Store) (first second : Value) : Computation :=
  match first, second with
  | .text a m, .text b n =>
    if b = "" then same (.text a m) else if a = "" then same (.text b n)
    else fresh (.text (a ++ b))
  | .tuple as m, .tuple bs n =>
    if bs.isEmpty then same (.tuple as m) else if as.isEmpty then same (.tuple bs n)
    else fresh (.tuple (as ++ bs))
  | a, b =>
    match store.octetsOf? a, store.octetsOf? b with
    | some as, some bs =>
      match a with
      | .octets _ _ => fresh (.octets (as ++ bs))
      | _ => made ClassId.octetArray (.octets (as ++ bs))
    | _, _ =>
      match store.listOf? a, store.listOf? b with
      | some as, some bs => made ClassId.list (.list (as ++ bs))
      | _, _ => none

/-! ## Sets and tables -/

/-- The class of a set that an operator makes. -/
def setClass (store : Store) (value : Value) : ClassId :=
  if store.isInstance value ClassId.frozenSet then ClassId.frozenSet else ClassId.set

/-- Put an entry into a table whose keys are compared by value. -/
def putEntry (store : Store) (entries : List (Value × Value)) (key value : Value) :
    List (Value × Value) :=
  match entries with
  | [] => [(key, value)]
  | (other, old) :: rest =>
    if store.matching other key then (other, value) :: rest
    else (other, old) :: putEntry store rest key value

/-- The entries of a table with those of another put over them. -/
def putOver (store : Store) (entries more : List (Value × Value)) : List (Value × Value) :=
  more.foldl (fun sofar (key, value) => store.putEntry sofar key value) entries

/-- An operator on two collections. -/
def onCollections (store : Store) (operator : BinaryOperator) (first second : Value) :
    Computation :=
  match store.slotsOf? first, store.slotsOf? second with
  | some as, some bs =>
    (store.combineSets? operator as bs).map fun slots =>
      .ok (.made (store.setClass first) (.set slots))
  | _, _ =>
    if operator = .either then
      match store.entriesOf? first, store.entriesOf? second with
      | some as, some bs => made ClassId.dict (.dict (store.putOver as bs))
      | _, _ => none
    else none

/-! ## Any values -/

/-- The result of a comparison. -/
def compared (store : Store) (operator : BinaryOperator) (first second : Value) : Computation :=
  if store.endless first second then
    failed (.foreign "RecursionError" "maximum recursion depth exceeded in comparison")
  else
  match operator with
  | .equal => same (.bool (store.equal first second))
  | .unequal => same (.bool !(store.equal first second))
  | operator => (store.orders? operator first second).map fun holds => .ok (.same (.bool holds))

/-- Apply an operator. -/
def operate? (store : Store) (operator : BinaryOperator) (first second : Value) : Computation :=
  if operator.compares then store.compared operator first second
  else
    let first := store.plainOf first
    let second := store.plainOf second
    match Number.ofValue? first, Number.ofValue? second with
    | some a, some b => onNumbers operator first second a b
    | number, other =>
      match operator with
      | .add => store.join? first second
      | .multiply =>
        match other, number with
        | some (.whole count), _ => store.repeat? first count
        | _, some (.whole count) => store.repeat? second count
        | _, _ => none
      | operator => store.onCollections operator first second

/-! ## Special methods -/

/-- How wide the kind of a number is. -/
def kindRank : Number → Nat
  | .whole _ => 0
  | .float _ => 1
  | .complex _ _ => 2

/-- Does a value say of any other whether the two are equal? -/
def tellsAlways : Value → Bool
  | .pattern _ _ => true
  | .success _ _ => true
  | .failure _ _ => true
  | _ => false

/-- Does the class of a value know how to compare it with another? -/
def knows (store : Store) (value other : Value) : Bool :=
  let value := store.plainOf value
  let other := store.plainOf other
  let isClass (id : ClassId) : Bool := store.isInstance value id && store.isInstance other id
  match Number.ofValue? value, Number.ofValue? other with
  | some a, some b => kindRank b ≤ kindRank a
  | some _, none => false
  | none, _ =>
    tellsAlways value || isClass ClassId.octets ||
      value.classId = ClassId.octetArray && (store.octetsOf? other).isSome ||
      (store.slotsOf? value).isSome && (store.slotsOf? other).isSome ||
      (store.slotsOf? value).isNone && (store.membersOf? value).isSome &&
        (store.membersOf? other).isSome ||
      (store.fieldsOf? value).isSome && value.classId = other.classId ||
      [ClassId.text, ClassId.tuple, ClassId.list, ClassId.dict, ClassId.range, ClassId.slice,
        ClassId.entity].any isClass

/-- What the special method of the class of a value for a comparison answers. -/
def compareBySlot (store : Store) (operator : BinaryOperator) (value other : Value) :
    Computation :=
  let settled := operator = .equal || operator = .unequal
  let ordered := [ClassId.tuple, ClassId.list, ClassId.slice, ClassId.entity].any
    (store.isInstance value)
  if store.knows value other then
    (store.compared operator value other).or
      (if ordered then failed (.misuse .operands) else none)
  else if settled && Value.same value other then same (.bool (operator = .equal))
  else none

/-- What the special method of the class of a value for an operator answers; `none` leaves the
matter to the other operand. -/
def slot? (store : Store) (operator : BinaryOperator) (value other : Value) : Computation :=
  if operator.compares then store.compareBySlot operator value other
  else
    let value := store.plainOf value
    let other := store.plainOf other
    match Number.ofValue? value, Number.ofValue? other with
    | some a, some b => if kindRank b ≤ kindRank a then onNumbers operator value other a b else none
    | some _, none => none
    | none, number =>
      let orRefused (computation : Computation) : Computation :=
        computation.or (failed (.misuse .operands))
      match operator with
      | .add => orRefused (store.join? value other)
      | .multiply =>
        match number with
        | some (.whole count) => orRefused (store.repeat? value count)
        | _ => failed (.misuse .operands)
      | operator => store.onCollections operator value other

/-- What the special method of the class of a value answers for an operator whose first operand is
the other one. -/
def exchangedSlot? (store : Store) (operator : BinaryOperator) (value other : Value) :
    Computation :=
  let value := store.plainOf value
  let other := store.plainOf other
  match Number.ofValue? value, Number.ofValue? other with
  | some a, some b => if kindRank b ≤ kindRank a then onNumbers operator other value b a else none
  | some _, none => none
  | none, number =>
    match operator, number with
    | .multiply, some (.whole count) =>
      (store.repeat? value count).or (failed (.misuse .operands))
    | .multiply, _ => failed (.misuse .operands)
    | operator, _ => store.onCollections operator other value

end Store

end Deferred
