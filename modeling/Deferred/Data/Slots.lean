/-!
# Slots

A set keeps its items in slots and gives them out in the order of the slots.  The slot of an item
follows from its digest: the one the digest leads to, or the next one that a fixed walk finds free.
A slot that was emptied is not taken again until all items are laid out anew, which happens when
three fifths of the slots are in use.
-/

namespace Deferred

/-- A slot. -/
inductive Slot (α : Type) where
  | free
  /-- An item was here and was taken out. -/
  | emptied
  | held (digest : UInt64) (item : α)
  deriving Inhabited

/-- A table of slots. -/
structure Slots (α : Type) where
  table : Array (Slot α) := Array.replicate 8 .free
  /-- Where the next item is looked for that is taken out without being named. -/
  finger : Nat := 0
  deriving Inhabited

namespace Slots

variable {α : Type}

/-- The digest and the item of a slot. -/
def heldIn? : Slot α → Option (UInt64 × α)
  | .held digest item => some (digest, item)
  | _ => none

/-- The items with their digests, in the order of their slots. -/
def held (slots : Slots α) : List (UInt64 × α) := slots.table.toList.filterMap heldIn?

/-- The items, in the order of their slots. -/
def toList (slots : Slots α) : List α := slots.held.map Prod.snd

/-- How many items there are. -/
def size (slots : Slots α) : Nat := slots.held.length

/-- Is a slot in use, by an item or by one that was taken out? -/
def inUse : Slot α → Bool
  | .free => false
  | _ => true

/-- How many slots are in use. -/
def filled (slots : Slots α) : Nat := slots.table.toList.countP inUse

/-- The slots that are looked at in a row: ten, or one where ten do not fit. -/
def row (size start : Nat) : List Nat :=
  if start + 9 < size then (List.range 10).map (start + ·) else [start]

/-- The first of some slots that is free or holds the item that is looked for. -/
def hit? (table : Array (Slot α)) (digest : UInt64) (is : α → Bool) : List Nat → Option Nat
  | [] => none
  | place :: rest =>
    match table[place]? with
    | some .free => some place
    | some (.held other item) =>
      if other = digest && is item then some place else hit? table digest is rest
    | _ => hit? table digest is rest

/-- Walk through the slots, at most `bound` rows, to the one that holds an item or is free for it;
`spread` is what is left of the digest to be mixed into the walk. -/
def walk (table : Array (Slot α)) (digest : UInt64) (is : α → Bool) :
    Nat → Nat → UInt64 → Nat
  | 0, place, _ => place
  | bound + 1, place, spread =>
    match hit? table digest is (row table.size place) with
    | some found => found
    | none =>
      let spread := spread >>> 5
      walk table digest is bound ((place * 5 + 1 + spread.toNat) % table.size) spread

/-- The slot that holds an item, or is free for it. -/
def placeOf (table : Array (Slot α)) (digest : UInt64) (is : α → Bool) : Nat :=
  walk table digest is (table.size + 64) (digest.toNat % table.size) digest

/-- Does the table hold an item? -/
def contains (slots : Slots α) (digest : UInt64) (is : α → Bool) : Bool :=
  match slots.table[placeOf slots.table digest is]? with
  | some (.held _ _) => true
  | _ => false

/-- Put an item that is not there into a table without emptied slots. -/
def place (table : Array (Slot α)) (entry : UInt64 × α) : Array (Slot α) :=
  table.setIfInBounds (placeOf table entry.1 fun _ => false) (.held entry.1 entry.2)

/-- The smallest number of slots, from a power of two on, that is above another number. -/
def capacity (wanted : Nat) : Nat → Nat → Nat
  | 0, size => size
  | bound + 1, size => if size ≤ wanted then capacity wanted bound (2 * size) else size

/-- Lay the items out anew among more than `wanted` slots. -/
def resized (slots : Slots α) (wanted : Nat) : Slots α :=
  { slots with
    table := slots.held.foldl place (Array.replicate (capacity wanted wanted 8) .free) }

/-- Are three fifths of the slots in use? -/
def isCrowded (filled size : Nat) : Bool := (size - 1) * 3 ≤ filled * 5

/-- Lay the items out anew when too many slots are in use. -/
def settled (slots : Slots α) : Slots α :=
  if isCrowded slots.filled slots.table.size then
    slots.resized (if 50000 < slots.size then slots.size * 2 else slots.size * 4)
  else slots

/-- Put an item in, unless it is there. -/
def insert (slots : Slots α) (digest : UInt64) (is : α → Bool) (item : α) : Slots α :=
  let found := placeOf slots.table digest is
  match slots.table[found]? with
  | some (.held _ _) => slots
  | _ => settled { slots with table := slots.table.setIfInBounds found (.held digest item) }

/-- Take an item out. -/
def erase (slots : Slots α) (digest : UInt64) (is : α → Bool) : Slots α :=
  let found := placeOf slots.table digest is
  match slots.table[found]? with
  | some (.held _ _) => { slots with table := slots.table.setIfInBounds found .emptied }
  | _ => slots

/-- Put the items of another table in; `same` tells equal items. -/
def merge (slots other : Slots α) (same : α → α → Bool) : Slots α :=
  if other.size = 0 then slots
  else
    let ready :=
      if isCrowded (slots.filled + other.size) slots.table.size then
        slots.resized ((slots.size + other.size) * 2)
      else slots
    if ready.filled = 0 then
      if ready.table.size = other.table.size && other.filled = other.size then
        { ready with table := other.table }
      else { ready with table := other.held.foldl place ready.table }
    else
      other.held.foldl (fun sofar (digest, item) => sofar.insert digest (same item) item) ready

/-- The same items laid out in a table of their own. -/
def copy (slots : Slots α) : Slots α := ({} : Slots α).merge slots fun _ _ => false

/-- Take some items out, and lay the others out anew when many slots are empty. -/
def withoutAll (slots : Slots α) (same : α → α → Bool) (gone : List (UInt64 × α)) : Slots α :=
  let left := gone.foldl (fun sofar (digest, item) => sofar.erase digest (same item)) slots
  if left.filled - left.size ≤ (left.table.size - 1) / 4 then left
  else left.resized (if 50000 < left.size then left.size * 2 else left.size * 4)

/-- The slot of the first item from a place on, in a round through the table. -/
def nextHeld? (slots : Slots α) (start : Nat) : Option Nat :=
  ((List.range slots.table.size).map fun step => (start + step) % slots.table.size).find? fun n =>
    match slots.table[n]? with
    | some (.held _ _) => true
    | _ => false

/-- Take out the next item. -/
def pop? (slots : Slots α) : Option (α × Slots α) :=
  match slots.nextHeld? (slots.finger % slots.table.size) with
  | none => none
  | some found =>
    (slots.table[found]?.bind heldIn?).map fun (_, item) =>
      (item, { table := slots.table.setIfInBounds found .emptied, finger := found + 1 })

@[simp] theorem toList_empty : ({} : Slots α).toList = [] := by
  simp [toList, held, heldIn?, List.filterMap]

end Slots

end Deferred
