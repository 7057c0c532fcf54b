import Deferred.Scenario.Basic

/-!
# Inspecting a module

The modules that can be inspected are described by the steps that happen when they are loaded; a
module is loaded when its path is looked up, and loading fails when a step does.  The commands of a
loaded module are those that were generated for routines of that very module, in the order of their
definitions.
-/

namespace Deferred.CommandLine

open Deferred.Action

/-- A module that is loaded by doing the steps of a scenario. -/
structure ModuleSource where
  name : String
  steps : List Scenario.Step
  /-- The exception that ends the loading, as its kind and its text. -/
  raised : Option (String × String)
  deriving Inhabited

namespace ModuleSource

/-- Load a module. -/
def load (source : ModuleSource) : Action Unit := do
  let scenario ← Scenario.start source.name
  scenario.doSteps source.steps
  match source.raised with
  | some (kind, text) => fail (Fault.raised kind text)
  | none => done ()

end ModuleSource

/-- The paths that end before each dot of a path, and the path itself. -/
def stagesFrom (before : List Char) : List Char → List String
  | [] => [String.ofList before.reverse]
  | '.' :: rest => String.ofList before.reverse :: stagesFrom ('.' :: before) rest
  | c :: rest => stagesFrom (c :: before) rest

/-- Look up one module whose surrounding module is there. -/
def loadStage (sources : List ModuleSource) (path : String) : Action Unit := do
  let store ← store
  match sources.find? (·.name = path), Host.parent? path.toList with
  | some source, none => source.load
  | some source, some parent =>
    if Host.isPackage (String.ofList parent) then source.load
    else fail (.importFailed (Host.ImportError.notInside path (String.ofList parent)).message)
  | none, _ =>
    match Host.find store.modules path with
    | .ok _ => done ()
    | .error error => fail (.importFailed error.message)

/-- Look up a module by its path. -/
def loadModule (sources : List ModuleSource) (path : String) : Action Unit :=
  match path.toList with
  | [] => fail .emptyImport
  | '.' :: _ => fail (.misuse .relativeImport)
  | letters => forEach (stagesFrom [] letters) (loadStage sources)

/-- The names of a module with what they mean. -/
def namesIn (store : Store) (path : String) : Namespace := (store.moduleNames? path).getD []

/-- The name that a module goes by itself, if that is a text. -/
def ownName? (store : Store) (path : String) : Option String :=
  (store.attribute? (.module path) "__name__").bind fun name => (store.plainOf name).asText?

/-- What was generated for a routine, with the place where that is described. -/
abbrev Found := Ref × Generation

/-- What a value describes that was generated for a routine. -/
def found? (store : Store) : Option Value → Option Found
  | some (.object _ place) =>
    match store.object? place with
    | some (.artifact generation) => some (place, generation)
    | _ => none
  | _ => none

/-- Add to what was found before what was generated for a routine of the module with a name, each
description once. -/
def keepOwn (home : Option String) (found : List Found) (one : Found) : List Found :=
  if home = some one.2.home && !(found.map Prod.fst).contains one.1 then found ++ [one] else found

/-- The names of a module while they are gone through, of which there were `size`. -/
def sameNames (path : String) (size : Nat) : Action Namespace := do
  let names := namesIn (← store) path
  if names.length = size then return names else fail (changedFault "dictionary")

/-- Go through the last `left` of the values that a module of `size` names has.  Looking at a value
may run a function of it, and such a function must not give the module more names. -/
def gather (machine : Machine) (path : String) (size : Nat) :
    Nat → List Found → Action (List Found)
  | 0, found => do
    let _ ← sameNames path size
    return found
  | left + 1, found => do
    match (← sameNames path size)[size - (left + 1)]? with
    | none => return found
    | some (_, value) => do
      let attached ← present? machine value artifactAttribute
      let store ← store
      gather machine path size left
        ((found? store attached).toList.foldl (keepOwn (ownName? store path)) found)

/-- The commands that are defined in a module, in the order of their definitions. -/
def commandsOf (machine : Machine) (path : String) : Action (List Generation) := do
  let size := (namesIn (← store) path).length
  let found ← gather machine path size size []
  return (found.map Prod.snd).mergeSort fun first second => first.line ≤ second.line

end Deferred.CommandLine
