import Deferred.Call.TableMethod

/-!
# Making written values

A written value is made anew each time it is evaluated: lists, tables and components get a place of
their own, and a name stands for what it means at that moment in the module.
-/

namespace Deferred.Datum

open Deferred.Action

/-- What a name means that the module does not define. -/
def standard? (name : String) : Option Value :=
  match Value.standard? name with
  | some value => some value
  | none =>
    if name = "None" then some .absent
    else if name = "True" then some (.bool true)
    else if name = "False" then some (.bool false)
    else none

/-- What a name means in a module. -/
def global? (store : Store) (module name : String) : Option Value :=
  match Entries.get? ((store.modules.made.lookup module).getD []) name with
  | some value => some value
  | none => standard? name

/-- What a name means in a module, which has to be something. -/
def global (module name : String) : Action Value := do
  let store ← store
  orFail (.noAttribute name) (global? store module name)

/-- A module by its name: one that was made, or one that can be found. -/
def moduleNamed (name : String) : Action Value := do
  let store ← store
  if (store.modules.made.lookup name).isSome then return .module name
  else
    match Host.find store.modules name with
    | .ok _ => return .module name
    | .error .emptyPath => fail .emptyImport
    | .error (.relativePath _) => fail (.misuse .relativeImport)
    | .error error => fail (.importFailed error.message)

/-- The component classes, by name. -/
def componentClass (name : String) : ClassId := .declared "game" name

mutual

/-- Make a written value, with the names of a module. -/
def make (module : String) : Datum → Action Value
  | absent => return .absent
  | bool value => return .bool value
  | int value => fresh (.int value)
  | float value => fresh (.float value)
  | text value => fresh (.text value)
  | list items => do newList (← makeAll module items)
  | tuple items => do fresh (.tuple (← makeAll module items))
  | dict entries => do newDict (← putEntries [] (← makeEntries module entries))
  | function name => global module name
  | type name => if name = "None" then return .ofClass ClassId.none else global module name
  | Datum.module name => moduleNamed name
  | entity index => do fresh (.entity (← make module index))
  | pattern names => do fresh (.pattern (← makeAll module names))
  | component className value => do
    allocate (componentClass className) .plain [("value", ← make module value)]

def makeAll (module : String) : List Datum → Action (List Value)
  | [] => return []
  | datum :: rest => do
    let value ← make module datum
    return value :: (← makeAll module rest)

def makeEntries (module : String) : List (Datum × Datum) → Action (List (Value × Value))
  | [] => return []
  | (key, datum) :: rest => do
    let key ← make module key
    let value ← make module datum
    return (key, value) :: (← makeEntries module rest)

end

end Deferred.Datum
