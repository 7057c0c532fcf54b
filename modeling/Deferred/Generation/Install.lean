import Deferred.Call.Injection
import Deferred.Generation.Artifact

/-!
# Installing a command

A generated command is installed in three places: its method on the types of the host, its record
and its extension in the module of the routine.  All conflicts are looked for before anything is
changed: a method must not hide an attribute that no generation made, and neither must a published
name, nor may it be the name of the routine itself.
-/

namespace Deferred

namespace Store

/-- Was a value made by a generation?  Only a mark of its own counts, not an inherited one. -/
def isGenerated (store : Store) (value : Value) : Bool :=
  let mark := match value with
    | .cls id => store.classAttribute? id generatedMark
    | .module module => (store.modules.made.lookup module).bind (Entries.get? · generatedMark)
    | value => store.ownAttribute? value generatedMark
  (mark.map store.isTrue).getD false

/-- Is a value a suspended routine, perhaps behind partial calls or bound to a receiver? -/
def isSuspended (store : Store) (value : Value) : Bool :=
  let function := match value with
    | .bound _ function _ => function
    | value => value
  match store.functionOf? (store.behindPartials store.cells.size function) with
  | some { body := .suspended, .. } => true
  | _ => false

/-- What ends the reading of a function whose parameters cannot be told: its annotations are
resolved before. -/
def readingFault (store : Store) (value : Value) (function : FunctionObject) (fault : Fault) :
    Fault :=
  match store.outlineOf value function with
  | .error _ => fault
  | .ok outline =>
    match Signature.ofRoutine store.surroundings.scope outline with
    | .error { error := .invalidReturn _, .. } => fault
    | .error failure => Diagnosis.ofSignature store.describe failure
    | .ok _ => fault

/-- What a decoration is put on. -/
def targetOf (store : Store) (value : Value) : Except Fault Target :=
  match store.functionOf? value with
  | some function =>
    match store.routineOf value function with
    | .ok routine => .ok (.routine routine)
    | .error fault => .error (store.readingFault value function fault)
  | none =>
    .ok (.other
      (if store.isSuspended value then "coroutine function" else store.className value.classId)
      (store.describe value))

end Store

namespace Generation

/-- The names that a generation publishes, and what each stands for. -/
def published (generation : Generation) (store : Store) : List (String × Value) :=
  Entries.putAll [] ((generation.recordClass :: generation.extensionClass.toList).map fun id =>
    (store.className id, .ofClass id))

/-- The keyword that chooses a published name. -/
def keyOf (generation : Generation) (store : Store) (name : String) : String :=
  if name = store.className generation.recordClass then "struct_name" else "trait_name"

end Generation

namespace Action

/-- What a value has under a name, absence counted as nothing. -/
def present? (machine : Machine) (value : Value) (name : String) : Action (Option Value) := do
  match ← attempt (attribute? machine.call value name) with
  | .ok (some .absent) => return none
  | .ok found => return found
  | .error fault => if isMissing fault then return none else fail fault

/-- The first host type on which a method would hide an attribute that no generation made. -/
def attributeConflict? (machine : Machine) (method : String) :
    List ClassId → Action (Option InstallError)
  | [] => return none
  | id :: rest => do
    match ← present? machine (.ofClass id) method with
    | none => attributeConflict? machine method rest
    | some existing =>
      match ← present? machine existing extensionMark with
      | some _ => attributeConflict? machine method rest
      | none => return some (.attributeTaken ((← store).className id) method)

/-- Is a name of a module taken by something that no generation made? -/
def isNameTaken (machine : Machine) (module name : String) : Action Bool := do
  if ((← store).moduleNames? module).isNone then return false
  else
    match ← present? machine (.module module) name with
    | none => return false
    | some existing => return !(← store).isGenerated existing

/-- The first published name that cannot be bound. -/
def nameConflict? (machine : Machine) (generation : Generation) :
    List (String × Value) → Action (Option InstallError)
  | [] => return none
  | (name, _) :: rest => do
    let key := generation.keyOf (← store) name
    if name = generation.name then return some (.nameOfRoutine name key)
    else if ← isNameTaken machine generation.home name then
      return some (.nameTaken generation.home name key)
    else nameConflict? machine generation rest

/-- What keeps a generation from being installed. -/
def installConflict? (machine : Machine) (generation : Generation) :
    Action (Option InstallError) := do
  match ← attributeConflict? machine generation.method
      (generation.implementations.map Prod.fst) with
  | some conflict => return some conflict
  | none => nameConflict? machine generation (generation.published (← store))

/-- Put the method on one host type, with a notice when it replaces another. -/
def installMethod (machine : Machine) (generation : Generation) (id : ClassId) : Action Unit := do
  match ← present? machine (.ofClass id) generation.method with
  | none => done ()
  | some previous => do
    let extension ← getAttribute machine.call previous extensionMark
    let store ← store
    perform (.notice
      (.replaced (store.className id) generation.method (store.textOf extension)))
  setAttribute (.ofClass id) generation.method (generation.extensionMethod.getD .absent)

/-- Install a generation. -/
def install (machine : Machine) (generation : Generation) (spans : SourceMap) : Action Unit := do
  match ← installConflict? machine generation with
  | some conflict => fail (Diagnosis.ofInstall generation.qualname spans conflict)
  | none => done ()
  forEach generation.implementations fun (id, _) => installMethod machine generation id
  let store ← store
  if (store.moduleNames? generation.home).isSome then
    forEach (generation.published store) fun (name, value) =>
      perform (.setGlobal generation.home name value)
  else done ()

/-- Make the plan for a decoration. -/
def planFor (value : Value) (raw : Options.Raw) (forEntity : Bool) : Action Plan := do
  let store ← store
  match do Plan.build store.surroundings (← store.targetOf value) raw forEntity value with
  | .ok plan => return plan
  | .error fault => fail fault

/-- Generate a command and install it; the answer is what was generated, with its plan. -/
def generateAndInstall (machine : Machine) (value : Value) (raw : Options.Raw)
    (forEntity : Bool) : Action (Plan × Generation) := do
  let plan ← planFor value raw forEntity
  let generation ← generate machine plan
  install machine generation plan.signature.spans
  return (plan, generation)

/-- Decorate a routine.  A refused definition leaves a notice, and so does an accepted one; the
public routine leads to what was generated. -/
def decorate (machine : Machine) (value : Value) (raw : Options.Raw) (forEntity : Bool) :
    Action Generation := do
  match ← attempt (generateAndInstall machine value raw forEntity) with
  | .ok (plan, generation) =>
    let store ← store
    perform (.notice (.generated (store.className generation.recordClass) generation.qualname
      generation.mode (generation.extensionClass.map store.className)))
    setAttribute generation.routine artifactAttribute (← newArtifact plan generation)
    return generation
  | .error (.rejected report) =>
    perform (.notice (.failed report))
    fail (.rejected report)
  | .error fault => fail fault

end Action

end Deferred
