import Deferred.Call.Operate

/-!
# Putting values in order

Values are ordered by what the operators say of their keys, and keys that do not come before one
another keep their order.  The order is found by inserting each value among those before it, which
is by bisection, so that no more comparisons are asked for than are needed.
-/

namespace Deferred.Action

/-- A value with the key it is ordered by. -/
abbrev Keyed := Value × Value

/-- The key of a value: what a function makes of it, or the value itself. -/
def keyOf (call : Caller) (key item : Value) : Action Value :=
  match key with
  | .absent => done item
  | function => call function (.ofList [item])

/-- Some values with the keys they are ordered by. -/
def withKeys (call : Caller) (key : Value) : List Value → Action (List Keyed)
  | [] => return []
  | item :: rest => do
    let value ← keyOf call key item
    return (value, item) :: (← withKeys call key rest)

/-- How many values at the start of a list stand in order, the first two of them apart; `falling`
says whether each is before the one in front of it, or none is. -/
def runLength (machine : Machine) (falling : Bool) : Keyed → List Keyed → Action Nat
  | _, [] => return 0
  | last, entry :: rest => do
    if (← holdsOf machine .less entry.1 last.1) = falling then
      return (← runLength machine falling entry rest) + 1
    else return 0

/-- The place between two others at which a key belongs among keys in order, in at most `bound`
steps. -/
def placeAmong (machine : Machine) (entries : Array Keyed) (key : Value) :
    Nat → Nat → Nat → Action Nat
  | 0, low, _ => return low
  | bound + 1, low, high =>
    if low < high then do
      let middle := low + (high - low) / 2
      let held := (entries[middle]?.map Prod.fst).getD .absent
      if ← holdsOf machine .less key held then placeAmong machine entries key bound low middle
      else placeAmong machine entries key bound (middle + 1) high
    else return low

/-- Insert values one after the other among values in order.  A value that cannot be compared stays
behind those that could be, and so do the values behind it. -/
def insertAll (machine : Machine) (entries : Array Keyed) : List Keyed → Action (Reached (List Keyed))
  | [] => return (entries.toList, none)
  | entry :: rest => do
    match ← attempt (placeAmong machine entries entry.1 (entries.size + 1) 0 entries.size) with
    | .ok place => insertAll machine (entries.insertIdxIfInBounds place entry) rest
    | .error fault => return (entries.toList ++ entry :: rest, some fault)

/-- Whether the second of some values is before the first, and how many of them stand in order. -/
def openingRun (machine : Machine) (first second : Keyed) (rest : List Keyed) :
    Action (Bool × Nat) := do
  let falling ← holdsOf machine .less second.1 first.1
  return (falling, (← runLength machine falling second rest) + 2)

/-- Values in the order of their keys, as far as those can be compared. -/
def inOrder (machine : Machine) (entries : List Keyed) : Action (Reached (List Keyed)) := do
  match entries with
  | first :: second :: rest => do
    match ← attempt (openingRun machine first second rest) with
    | .error fault => return (entries, some fault)
    | .ok (falling, size) =>
      let run := entries.take size
      insertAll machine (if falling then run.reverse else run).toArray (entries.drop size)
  | entries => return (entries, none)

/-- Values in order of the keys that a function gives them, or in the opposite order, as far as the
keys can be compared. -/
def ordered (machine : Machine) (items : List Value) (key : Value) (falling : Bool) :
    Action (Reached (List Value)) := do
  match ← attempt (withKeys machine.call key items) with
  | .error fault => return (items, some fault)
  | .ok keyed => do
    let (entries, fault) ← inOrder machine (if falling then keyed.reverse else keyed)
    return ((if falling then entries.reverse else entries).map Prod.snd, fault)

/-- The values of a list that could all be compared, in order. -/
def sorted (machine : Machine) (items : List Value) (key backwards : Value) :
    Action (List Value) := do
  let (items, fault) ← ordered machine items key (← switchedOn machine.call backwards)
  raised fault
  return items

/-- The value whose key comes before all others, or behind them; of several the first. -/
def extreme? (machine : Machine) (operator : BinaryOperator) (key source : Value) :
    Action (Option Value) := do
  let best ← foldItems machine (fun best item => do
    let entry := (← keyOf machine.call key item, item)
    match best with
    | none => return some entry
    | some best =>
      return some (if ← holdsOf machine operator entry.1 best.1 then entry else best)) none source
  return best.map Prod.snd

end Deferred.Action
