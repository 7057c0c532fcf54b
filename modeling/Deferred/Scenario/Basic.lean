import Deferred.Scenario.Definition

/-!
# Scenarios

A scenario is a sequence of steps in one module, with one world and one handle of a queue that
records commands for it.  Every step is answered, and a step that fails keeps what it did before.
-/

namespace Deferred

open Deferred.Action

/-- A scenario: its module, its variables, its world and its handle of a queue. -/
structure Scenario where
  module : String
  scope : Ref
  world : Value
  commands : Value
  deriving Inhabited

namespace Scenario

/-- A step of a scenario. -/
inductive Step where
  | host (host : HostModule)
  | define (definition : Definition) (decoration : Option Decoration)
  | global (name : String) (value : Datum)
  | script (body : Script)
  deriving Inhabited

/-- What is told of a generation: the names of what it declared, and the names of the host types that
got the method. -/
structure Declared where
  record : String
  mode : Mode
  extension : Option String
  method : String
  hosts : List String
  deriving Inhabited

/-- What is told of a generation when it is done. -/
def Declared.ofGeneration (store : Store) (generation : Generation) : Declared where
  record := store.className generation.recordClass
  mode := generation.mode
  extension := generation.extensionClass.map store.className
  method := generation.method
  hosts := generation.implementations.map fun (id, _) => store.className id

/-- What a step is answered with. -/
inductive Answer where
  | shown (value : Shown)
  | generated (declared : Declared)
  deriving Inhabited

/-- Start a scenario in a module. -/
def start (module : String) : Action Scenario := do
  makeModule module
  let world ← allocate ClassId.world (.world {})
  let queue ← allocate ClassId.commandQueue (.queue [])
  let commands ← allocate ClassId.commands .plain [("_queue", queue), ("_world", world)]
  let store ← store
  let _ ← allocate ClassId.dict
    (.scope module [("world", world), ("commands", commands)])
  return { module, scope := store.cells.size, world, commands }

/-- Do one step. -/
def Step.run (scenario : Scenario) : Step → Action Answer
  | .host described => do
    makeHost scenario.module described
    return .shown .absent
  | .define definition decoration => do
    match ← definition.define scenario.module scenario.scope decoration with
    | some generation => return .generated (.ofGeneration (← store) generation)
    | none => return .shown .absent
  | .global name datum => do
    let value ← datum.make scenario.module
    perform (.setGlobal scenario.module name value)
    return .shown .absent
  | .script body => do
    let value ← body.evaluate (machine bound) scenario.scope
    return .shown (← revealed value)

/-- Do some steps in turn; the first that fails is the last. -/
def doSteps (scenario : Scenario) (steps : List Step) : Action Unit :=
  forEach steps fun step => do
    let _ ← step.run scenario

/-- The world and the queue of a scenario as they are shown after a step. -/
structure State where
  entities : List (Int × List (String × Shown))
  resources : List (String × Shown)
  queued : Nat
  deriving Inhabited

/-- Values with the names of the classes they are kept under. -/
def shownEntries (store : Store) (entries : List (ClassId × Value)) : List (String × Shown) :=
  entries.map fun (id, value) => (store.className id, store.shown value)

/-- The state of a scenario. -/
def state (scenario : Scenario) (store : Store) : State :=
  let world := (store.worldOf? scenario.world).getD {}
  { entities := world.rows.map fun row => (row.handle.index, shownEntries store row.components)
    resources := shownEntries store world.resources
    queued := store.queuedCount scenario.commands }

/-- Everything that a step is answered with. -/
structure Outcome where
  answer : Except Fault Answer
  notices : List Notice
  log : List Shown
  state : State

/-- Do the steps in turn, each from where the one before it ended. -/
def runSteps (scenario : Scenario) : List Step → Store → List Outcome × Store
  | [], store => ([], store)
  | step :: rest, store =>
    let (answer, after) := (step.run scenario).run { store with notices := [], log := [] }
    let outcome : Outcome :=
      { answer, notices := after.notices, log := after.log, state := scenario.state after }
    let (outcomes, last) := runSteps scenario rest after
    (outcome :: outcomes, last)

/-- Run a scenario from the beginning. -/
def runAll (module : String) (steps : List Step) : List Outcome :=
  match (start module).run {} with
  | (.ok scenario, store) => (runSteps scenario steps store).1
  | (.error _, _) => []

end Scenario

end Deferred
