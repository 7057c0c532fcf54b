import Deferred.Data.Slice
import Deferred.Number.Basic
import Deferred.Operator
import Deferred.Store.Show

/-!
# Comparing values

Numbers of all kinds are compared exactly, truth values count as numbers, and everything else that
is compared by value is compared part by part.  Sets are ordered by inclusion, and so are the parts
of a table that are sets.  An object without a rule of its own equals itself only.
-/

namespace Deferred.Store

/-- A value without the class that was put below the class of plain values it belongs to. -/
def plainOf (store : Store) (value : Value) : Value :=
  match store.objectOf? value with
  | some (.extended base) => base
  | _ => value

/-- The octets of a value. -/
def octetsOf? (store : Store) (value : Value) : Option (List UInt8) :=
  match value with
  | .octets content _ => some content
  | value =>
    match store.objectOf? value with
    | some (.octets content) => some content
    | _ => none

/-- The entries of a table. -/
def entriesOf? (store : Store) (value : Value) : Option (List (Value × Value)) :=
  match store.objectOf? value with
  | some (.dict entries) => some entries
  | _ => none

/-- What a part of a table gives out. -/
def partItems (part : TablePart) (entries : List (Value × Value)) : List Value :=
  entries.map fun (key, value) =>
    match part with
    | .keys => key
    | .values => value
    | .items => .tuple [key, value] 0

/-- The slots of a set. -/
def slotsOf? (store : Store) (value : Value) : Option (Slots Value) :=
  match store.objectOf? value with
  | some (.set slots) => some slots
  | _ => none

/-- The items of a set, or of a part of a table that counts as one. -/
def membersOf? (store : Store) (value : Value) : Option (List Value) :=
  match store.objectOf? value with
  | some (.set slots) => some slots.toList
  | some (.view .keys table) => (store.entriesOf? table).map (partItems .keys)
  | some (.view .items table) => (store.entriesOf? table).map (partItems .items)
  | _ => none

/-- Compare two lists of the same length, item by item. -/
def allEqual (equal : Value → Value → Bool) : List Value → List Value → Bool
  | [], [] => true
  | a :: as, b :: bs => (Value.same a b || equal a b) && allEqual equal as bs
  | _, _ => false

/-- Do two sets of items agree? -/
def sameMembers (equal : Value → Value → Bool) (as bs : List Value) : Bool :=
  as.length == bs.length && as.all fun item => bs.any fun other =>
    Value.same item other || equal item other

/-- Do two ranges give out the same numbers? -/
def sameRange (first second : Int × Int × Int) : Bool :=
  let size := rangeSize first.1 first.2.1 first.2.2
  size == rangeSize second.1 second.2.1 second.2.2 &&
    (size == 0 || first.1 == second.1 && (size == 1 || first.2.2 == second.2.2))

/-- Does the content of two objects agree?  `bothLists` says whether lists are of one kind. -/
def contentEqual (equal : Value → Value → Bool) (bothLists : Bool) : Object → Object → Bool
  | .list as, .list bs => bothLists && allEqual equal as bs
  | .dict as, .dict bs =>
    as.length == bs.length && as.all fun (key, value) =>
      bs.any fun (otherKey, otherValue) => equal key otherKey && equal value otherValue
  | .octets as, .octets bs => as == bs
  | _, _ => false

/-- Are two values equal, looking into them to a depth of at most `bound`? -/
def equalWithin (store : Store) : Nat → Value → Value → Bool
  | 0, first, second => Value.same first second
  | bound + 1, first, second =>
    let equal := store.equalWithin bound
    match Number.ofValue? first, Number.ofValue? second with
    | some a, some b => Number.equal a b
    | _, _ =>
      match first, second with
      | .text a _, .text b _ => a == b
      | .tuple as _, .tuple bs _ => allEqual equal as bs
      | .octets as _, .octets bs _ => as == bs
      | .range a b c _, .range d e f _ => sameRange (a, b, c) (d, e, f)
      | .slice a b c _, .slice d e f _ => allEqual equal [a, b, c] [d, e, f]
      | .entity a _, .entity b _ => allEqual equal [a] [b]
      | .pattern as _, .pattern bs _ => allEqual equal as bs
      | .success a _, .success b _ => equal a b
      | .failure a _, .failure b _ => equal a b
      | .applied a as _, .applied b bs _ => a == b && allEqual equal as bs
      | .optional a, .optional b => equal a b
      | .classVar a, .classVar b => equal a b
      | .annotated a as, .annotated b bs => equal a b && allEqual equal as bs
      | .bound a f _, .bound b g _ => Value.same a b && equal f g
      | .object id a, .object other b =>
        if a == b then true
        else
          match store.membersOf? first, store.membersOf? second with
          | some as, some bs => sameMembers equal as bs
          | _, _ =>
            match if id = other then store.fieldsOf? first else none, store.fieldsOf? second with
            | some as, some bs => allEqual equal (as.map Prod.snd) (bs.map Prod.snd)
            | _, _ =>
              match store.plainOf first, store.plainOf second with
              | .object _ _, .object _ _ =>
                match store.object? a, store.object? b with
                | some a, some b =>
                  contentEqual equal
                    (store.isSubclass id ClassId.list == store.isSubclass other ClassId.list) a b
                | _, _ => false
              | a, b => equal a b
      | .object _ _, other =>
        match store.plainOf first with
        | .object _ _ =>
          match store.octetsOf? first, store.octetsOf? other with
          | some as, some bs => as == bs
          | _, _ => false
        | base => equal base other
      | other, .object _ _ =>
        match store.plainOf second with
        | .object _ _ =>
          match store.octetsOf? other, store.octetsOf? second with
          | some as, some bs => as == bs
          | _, _ => false
        | base => equal other base
      | a, b => Value.same a b

/-- Are two values equal? -/
def equal (store : Store) (first second : Value) : Bool :=
  store.equalWithin store.depthBound first second

/-- Is a value the same as another, or equal to it? -/
def matching (store : Store) (first second : Value) : Bool :=
  Value.same first second || store.equal first second

/-- Does the comparison of two values go on without end?  It does where each is met again inside
itself before anything in them differs. -/
def endlessWithin (store : Store) : Nat → Value → Value → Bool
  | 0, _, _ => true
  | bound + 1, first, second =>
    match first, second with
    | .tuple as _, .tuple bs _ => among (store.endlessWithin bound) as bs
    | .object id a, .object other b =>
      if a = b then false
      else
        match if id = other then store.fieldsOf? first else none, store.fieldsOf? second with
        | some as, some bs =>
          among (store.endlessWithin bound) (as.map Prod.snd) (bs.map Prod.snd)
        | _, _ =>
          match store.object? a, store.object? b with
          | some (.list as), some (.list bs) => among (store.endlessWithin bound) as bs
          | some (.dict as), some (.dict bs) =>
            among (store.endlessWithin bound) (as.map Prod.snd) (bs.map Prod.snd)
          | _, _ => false
    | _, _ => false
where
  /-- The items are compared in turn, up to the first two that differ. -/
  among (endless : Value → Value → Bool) (as bs : List Value) : Bool :=
    as.length == bs.length && inTurn endless (as.zip bs)
  inTurn (endless : Value → Value → Bool) : List (Value × Value) → Bool
    | [] => false
    | (a, b) :: rest =>
      !Value.same a b && endless a b || store.matching a b && inTurn endless rest

/-- Does the comparison of two values go on without end? -/
def endless (store : Store) (first second : Value) : Bool :=
  store.endlessWithin store.depthBound first second

/-- The order of two lists of octets. -/
def octetOrder (first second : List UInt8) : Ordering :=
  compareLex (first.map UInt8.toNat) (second.map UInt8.toNat)
where
  compareLex : List Nat → List Nat → Ordering
    | [], [] => .eq
    | [], _ :: _ => .lt
    | _ :: _, [] => .gt
    | a :: as, b :: bs => (compare a b).then (compareLex as bs)

/-- Does one set of items stand in an order by inclusion to another? -/
def inclusion (store : Store) (operator : BinaryOperator) (as bs : List Value) : Bool :=
  let within (items others : List Value) : Bool :=
    items.all fun item => others.any (store.matching item)
  match operator with
  | .less => as.length < bs.length && within as bs
  | .atMost => as.length ≤ bs.length && within as bs
  | .greater => bs.length < as.length && within bs as
  | .atLeast => bs.length ≤ as.length && within bs as
  | .unequal => !(as.length == bs.length && within as bs)
  | _ => as.length == bs.length && within as bs

/-- The sequence of a value that is ordered by its items, with the kind of the sequence. -/
def sequenceOf? (store : Store) (value : Value) : Option (Bool × List Value) :=
  match value with
  | .tuple items _ => some (true, items)
  | value =>
    if store.isInstance value ClassId.list then (store.listOf? value).map (false, ·) else none

/-- Does a comparison hold of two values?  `none` when the two are of kinds without an order. -/
def ordersWithin (store : Store) (operator : BinaryOperator) : Nat → Value → Value → Option Bool
  | 0, _, _ => none
  | bound + 1, first, second =>
    let first := store.plainOf first
    let second := store.plainOf second
    match Number.ofValue? first, Number.ofValue? second with
    | some (.complex _ _), _ => none
    | _, some (.complex _ _) => none
    | some a, some b => some ((Number.order? a b).map operator.holds |>.getD false)
    | _, _ =>
      match first, second with
      | .text a _, .text b _ => some (operator.holds (compare a b))
      | .entity a _, .entity b _ => byItems (store.ordersWithin operator bound) [a] [b]
      | .slice a b c m, .slice d e f n =>
        if m == n then some (operator.holds .eq)
        else byItems (store.ordersWithin operator bound) [a, b, c] [d, e, f]
      | first, second =>
        match store.sequenceOf? first, store.sequenceOf? second with
        | some (kind, as), some (other, bs) =>
          if kind = other then byItems (store.ordersWithin operator bound) as bs else none
        | _, _ =>
          match store.membersOf? first, store.membersOf? second with
          | some as, some bs => some (store.inclusion operator as bs)
          | _, _ =>
            match store.octetsOf? first, store.octetsOf? second with
            | some as, some bs => some (operator.holds (octetOrder as bs))
            | _, _ => none
where
  /-- The order of two lists is that of the first items that differ, else that of their lengths. -/
  byItems (orders : Value → Value → Option Bool) : List Value → List Value → Option Bool
    | [], [] => some (operator.holds .eq)
    | [], _ :: _ => some (operator.holds .lt)
    | _ :: _, [] => some (operator.holds .gt)
    | a :: as, b :: bs => if store.matching a b then byItems orders as bs else orders a b

/-- Does a comparison by order hold of two values? -/
def orders? (store : Store) (operator : BinaryOperator) (first second : Value) : Option Bool :=
  store.ordersWithin operator store.depthBound first second

/-- Does a value count as true by what it is? -/
def isTrue (store : Store) : Value → Bool
  | .absent => false
  | .text value _ => value ≠ ""
  | .tuple items _ => !items.isEmpty
  | .octets content _ => !content.isEmpty
  | .range start stop step _ => rangeSize start stop step ≠ 0
  | .object _ place =>
    match store.object? place with
    | some (.list items) => !items.isEmpty
    | some (.dict entries) => !entries.isEmpty
    | some (.set slots) => slots.size ≠ 0
    | some (.octets content) => !content.isEmpty
    | some (.view _ table) => !((store.entriesOf? table).map List.isEmpty |>.getD true)
    | some (.queue pending) => !pending.isEmpty
    | some (.extended (.text value _)) => value ≠ ""
    | some (.extended (.tuple items _)) => !items.isEmpty
    | some (.extended base) => ((Number.ofValue? base).map Number.isTrue).getD true
    | _ => true
  | value => ((Number.ofValue? value).map Number.isTrue).getD true

end Deferred.Store
