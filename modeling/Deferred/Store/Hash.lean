import Deferred.Store.Compare

/-!
# Digests of keys

Keys that are equal have the same digest.  The digest of a number depends on its value alone, so
that all kinds of number agree, and that of a sequence of numbers is a number again.  Everything
whose digest is not a number is told apart by what it is.
-/

namespace Deferred

/-- The digest of a key. -/
inductive Digest where
  | number (value : Int)
  | text (value : String)
  | combined (parts : List Digest)
  | object (value : Value)

namespace Digest

/-- The modulus of the digests of numbers: the powers of two repeat after sixty-one steps. -/
def modulus : Nat := Text.twoPow 61 - 1

/-- A digest is never minus one. -/
def settled (value : Int) : Int := if value = -1 then -2 else value

/-- The digest of a whole number. -/
def ofInt (value : Int) : Int :=
  let size : Int := value.natAbs % modulus
  settled (if value < 0 then -size else size)

/-- The digest of a float. -/
def ofFloat (value : Float) : Digest :=
  match BinaryFraction.ofFloat? value with
  | some fraction =>
    let shift := (fraction.exponent % 61).toNat
    let size : Int := (fraction.mantissa.natAbs * Text.twoPow shift) % modulus
    .number (settled (if fraction.mantissa < 0 then -size else size))
  | none =>
    if value.isNaN then .object (.float value 0)
    else .number (if value < 0 then -314159 else 314159)

/-- The numbers that some digests are, if all of them are. -/
def numbers? : List Digest → Option (List Int)
  | [] => some []
  | number value :: rest => (numbers? rest).map (value :: ·)
  | _ => none

/-- A word turned to the left. -/
def turned (word : UInt64) (count : UInt64) : UInt64 :=
  (word <<< count) ||| (word >>> (64 - count))

/-- Mix the digest of one more item into that of the items before it. -/
def mix (sofar : UInt64) (part : Int) : UInt64 :=
  let lane : UInt64 := UInt64.ofInt part
  turned (sofar + lane * 14029467366897019727) 31 * 11400714785074694791

/-- A word as a whole number with a sign. -/
def signed (word : UInt64) : Int :=
  if word.toNat < Text.twoPow 63 then word.toNat else (word.toNat : Int) - Text.twoPow 64

/-- The digest of a sequence of numbers. -/
def ofNumbers (parts : List Int) : Int :=
  let start : UInt64 := 2870177450012600261
  let mixed := parts.foldl mix start
  let last := mixed + (UInt64.ofNat parts.length ^^^ (start ^^^ 3527539))
  let value := signed last
  if value = -1 then 1546275796 else value

/-- The digest of a sequence. -/
def ofList (parts : List Digest) : Digest :=
  match numbers? parts with
  | some numbers => .number (ofNumbers numbers)
  | none => .combined parts

/-- The digest of a complex number. -/
def ofComplex (real imaginary : Float) : Digest :=
  match ofFloat real, ofFloat imaginary with
  | number first, number second =>
    .number (settled (signed (UInt64.ofInt first + 1000003 * UInt64.ofInt second)))
  | _, _ => .object (.complex real imaginary 0)

/-- The bits of a digest spread out. -/
def spread (digest : UInt64) : UInt64 :=
  ((digest ^^^ (89869747 : UInt64)) ^^^ (digest <<< (16 : UInt64))) * 3644798167

/-- The digest of a set, in which the order of the digests does not count. -/
def ofSet (digests : List UInt64) : Int :=
  let mixed := digests.foldl (fun sofar digest => sofar ^^^ spread digest) 0
  let mixed := mixed ^^^ ((UInt64.ofNat digests.length + (1 : UInt64)) * (1927868237 : UInt64))
  let mixed :=
    (mixed ^^^ ((mixed >>> (11 : UInt64)) ^^^ (mixed >>> (25 : UInt64)))) * 69069 + 907133923
  let value := signed mixed
  if value = -1 then 590923713 else value

mutual

/-- Do two digests agree? -/
def agree : Digest → Digest → Bool
  | number a, number b => a == b
  | text a, text b => a == b
  | combined as, combined bs => allAgree as bs
  | object a, object b => Value.same a b
  | _, _ => false

def allAgree : List Digest → List Digest → Bool
  | [], [] => true
  | a :: as, b :: bs => agree a b && allAgree as bs
  | _, _ => false

end

/-- The digest as a number. -/
def toInt : Digest → Int
  | number value => value
  | text value => ofNumbers (value.toList.map fun c => (c.toNat : Int))
  | _ => 0

/-- The digest as a word. -/
def toWord (digest : Digest) : UInt64 := UInt64.ofInt digest.toInt

end Digest

namespace Store

/-- What was put on the class of an object as its digest. -/
def ownDigest? (store : Store) (id : ClassId) : Option Value :=
  (store.ancestors id).findSome? fun id => store.classAttribute? id "__hash__"

/-- Can a value be a key?  The class of an object has the last word. -/
def isKey (store : Store) (value : Value) : Bool :=
  match value with
  | .object id _ =>
    match store.ownDigest? id with
    | some .absent => false
    | some _ => true
    | none => value.hashable
  | value => value.hashable

/-- The digest of a value that can be a key, to a depth of at most `bound`.  All objects with one
that was put on their class have the same. -/
def digestWithin (store : Store) : Nat → Value → Digest
  | 0, value => .object value
  | bound + 1, value =>
    let digest := store.digestWithin bound
    match value with
    | .bool value => .number (if value then 1 else 0)
    | .int value _ => .number (Digest.ofInt value)
    | .float value _ => Digest.ofFloat value
    | .complex real imaginary _ => Digest.ofComplex real imaginary
    | .text value _ => if value = "" then .number 0 else .text value
    | .octets content _ =>
      if content.isEmpty then .number 0 else .combined (content.map fun octet => .number octet.toNat)
    | .range start stop step _ =>
      let size := rangeSize start stop step
      Digest.ofList ([Value.ofInt size, if size = 0 then .absent else .ofInt start,
        if size < 2 then .absent else .ofInt step].map digest)
    | .tuple items _ => Digest.ofList (items.map digest)
    | .entity index _ => Digest.ofList [digest index]
    | .pattern names _ => Digest.ofList (names.map digest)
    | .success value _ => digest value
    | .failure value _ => digest value
    | .applied id arguments _ => .combined (.object (.cls id) :: arguments.map digest)
    | .object id _ =>
      if (store.ownDigest? id).isSome then .number 0 else
      match store.slotsOf? value, store.plainOf value with
      | some slots, _ => .number (Digest.ofSet (slots.held.map Prod.fst))
      | none, .object _ _ => .object value
      | none, base => digest base
    | value => .object value

/-- The digest of a value that can be a key. -/
def digest (store : Store) (value : Value) : Digest := store.digestWithin store.depthBound value

/-- A set with one more item. -/
def withMember (store : Store) (slots : Slots Value) (item : Value) : Slots Value :=
  slots.insert (store.digest item).toWord (store.matching item) item

/-- Does a set hold an item? -/
def hasMember (store : Store) (slots : Slots Value) (item : Value) : Bool :=
  slots.contains (store.digest item).toWord (store.matching item)

/-- A set without an item. -/
def withoutMember (store : Store) (slots : Slots Value) (item : Value) : Slots Value :=
  slots.erase (store.digest item).toWord (store.matching item)

/-- A set of some items. -/
def setOf (store : Store) (items : List Value) : Slots Value := items.foldl store.withMember {}

end Store

end Deferred
