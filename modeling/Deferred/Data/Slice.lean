/-!
# Positions in sequences

An index counts from the start of a sequence, or from its end when it is negative.  A slice takes
the items between two bounds, in steps; bounds beyond an end stop at that end.
-/

namespace Deferred

/-- The position that an index means in a sequence. -/
def position? (size : Nat) (index : Int) : Option Nat :=
  let place := if index < 0 then index + size else index
  if 0 ≤ place ∧ place < size then some place.toNat else none

/-- The place between the items of a sequence that an index means; one beyond an end means the
end. -/
def clamped (size : Nat) (index : Int) : Nat :=
  (if index < 0 then max (index + size) 0 else min index size).toNat

/-- A position lies inside the sequence. -/
theorem position?_lt {size : Nat} {index : Int} {place : Nat}
    (found : position? size index = some place) : place < size := by
  simp only [position?, Option.ite_none_right_eq_some, Option.some.injEq] at found
  omega

/-- How many whole numbers a range holds. -/
def rangeSize (start stop step : Int) : Nat :=
  if step = 0 then 0
  else if 0 < step then ((stop - start + step - 1).fdiv step).toNat
  else ((start - stop - step - 1).fdiv (-step)).toNat

/-- The bounds of a slice. -/
structure Slice where
  start : Option Int := none
  stop : Option Int := none
  step : Int := 1
  deriving Repr, Inhabited

namespace Slice

/-- The first position of a slice of a sequence and the one to stop before. -/
def bounds (slice : Slice) (size : Nat) : Int × Int :=
  let lower : Int := if slice.step < 0 then -1 else 0
  let upper : Int := if slice.step < 0 then (size : Int) - 1 else size
  let settle (bound : Int) : Int :=
    max lower (min upper (if bound < 0 then bound + size else bound))
  (((slice.start.map settle).getD (if slice.step < 0 then upper else lower)),
    ((slice.stop.map settle).getD (if slice.step < 0 then lower else upper)))

/-- The positions that a slice takes from a sequence. -/
def positions (slice : Slice) (size : Nat) : List Nat :=
  let (start, stop) := slice.bounds size
  (List.range (rangeSize start stop slice.step)).map fun n : Nat =>
    (start + n * slice.step).toNat

/-- The items that a slice takes from a sequence. -/
def select {α : Type} (slice : Slice) (items : List α) : List α :=
  let table := items.toArray
  (slice.positions table.size).filterMap (table[·]?)

/-- Does a slice take a whole sequence as it is? -/
def isWhole (slice : Slice) (size : Nat) : Bool :=
  slice.step = 1 && slice.bounds size = (0, (size : Int))

/-- The items that a slice leaves in a sequence. -/
def without {α : Type} (slice : Slice) (items : List α) : List α :=
  let taken := slice.positions items.length
  (items.zipIdx.filter fun (_, place) => !taken.contains place).map Prod.fst

/-- A sequence with others in place of the items between two bounds. -/
def replace {α : Type} (slice : Slice) (items others : List α) : List α :=
  let (start, stop) := slice.bounds items.length
  items.take start.toNat ++ others ++ items.drop (max start stop).toNat

/-- A sequence with others in place of the items that a slice takes, one for each. -/
def assign {α : Type} (slice : Slice) (items others : List α) : List α :=
  ((slice.positions items.length).zip others).foldl
    (fun sofar (place, item) => sofar.set place item) items

end Slice

end Deferred
