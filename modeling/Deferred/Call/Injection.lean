import Deferred.Call.Parameters
import Deferred.Plan.Build

/-!
# Running a routine by the host

The host gives each parameter what its annotation asks for: the input, the world, a fresh handle of
the queue, a resource or a query.  A parameter that is bound already is left alone, and so is one
that has a default and asks for nothing.  The commands recorded through fresh handles are applied
when the routine has come to its end, one handle after the other.
-/

namespace Deferred

/-- What the annotation of a parameter asks the host for. -/
inductive Wanted where
  | input
  | world
  | commands
  | resource (type : Option Value)
  | query (type : Option Value)
  | nothing
  deriving Inhabited

namespace Wanted

/-- What an annotation asks for. -/
def ofHint (hint : Option Value) : Wanted :=
  match hint.map Value.stripNotes with
  | none => nothing
  | some type =>
    let origin := type.origin
    if origin.isClass ClassId.input then input
    else if type.isClass ClassId.world then world
    else if type.isClass ClassId.commands then commands
    else if origin.isClass ClassId.resource ∨ origin.isClass ClassId.resourceMut then
      resource type.arguments.head?
    else if origin.isClass ClassId.query then query type.arguments.head?
    else nothing

end Wanted

/-- The arguments collected for a run, with the handles to apply when it is over. -/
structure Injection where
  positional : List Value := []
  keywords : List (String × Value) := []
  handles : List Value := []
  deriving Inhabited

namespace Injection

/-- Add an argument for a parameter. -/
def give (injection : Injection) (parameter : CallParameter) (argument : Value) : Injection :=
  if parameter.kind = .positionalOnly then
    { injection with positional := injection.positional ++ [argument] }
  else { injection with keywords := injection.keywords ++ [(parameter.name, argument)] }

end Injection

namespace Store

/-- What the stages of a generation know of the values that they meet. -/
def surroundings (store : Store) : Surroundings where
  scope := store.hintScope Value.standard?
  modules := store.modules
  nameOf? := store.nameOf?
  sequence? := store.sequence?
  describe := store.describe

/-- The function behind partial calls. -/
def behindPartials (store : Store) : Nat → Value → Value
  | 0, value => value
  | bound + 1, value =>
    match store.objectOf? value with
    | some (.partialCall function _ _) => store.behindPartials bound function
    | _ => value

/-- A fault for annotations that have no meaning. -/
def unresolved (store : Store) (target : Value) (error : Hint.ResolveError) : Fault :=
  if error.isDiagnosed then
    .unresolvedSystem (store.describe target) (error.message store.describe)
  else Diagnosis.ofResolve store.describe error

/-- The written annotations of the fields that a class declares itself. -/
def fieldHints (store : Store) (id : ClassId) : List (String × Value) :=
  match store.recordFields? id with
  | some fields =>
    let inherited := ((store.ancestors id).drop 1).flatMap fun parent =>
      ((store.recordFields? parent).getD []).map RecordField.name
    (fields.filter fun field => !inherited.contains field.name).map fun field =>
      (field.name, .ofText field.hint)
  | none =>
    if id.isComponent then [("value", .ofText "object")]
    else if id = ClassId.entity then [("index", .ofText "int")]
    else if id = ClassId.scopedCommand then
      [("command", .ofText "EntityCommand"), ("entity", .ofText "Entity")]
    else if id = ClassId.closureCommand then [("function", .ofText "Callable")]
    else if id = ClassId.insertResource then [("resource", .ofText "object")]
    else if id = ClassId.insertComponents then [("components", .ofText "tuple[object, ...]")]
    else []

/-- The names that the annotations of a class are written with. -/
def classNames (store : Store) (id : ClassId) (name : String) : Option Value :=
  match (store.moduleNames? id.home).bind (Entries.get? · name) with
  | some value => some value
  | none =>
    if id = ClassId.scopedCommand ∧ name = "EntityCommand" then
      some (.ofClass ClassId.entityCommand)
    else Value.standard? name

/-- The annotations of the fields of a class and of those it inherits. -/
def classHints (store : Store) (id : ClassId) : Except Hint.ResolveError Bindings :=
  if id = ClassId.closureCommand then .error (.undefined "World")
  else go (store.ancestors id).reverse
where
  go : List ClassId → Except Hint.ResolveError Bindings
    | [] => .ok []
    | id :: rest => do
      let own ← Signature.resolveAll (store.hintScope (store.classNames id)) (store.fieldHints id)
      return own ++ (← go rest)

/-- The first field hints among a class and those it inherits. -/
def nearestHints (store : Store) (id : ClassId) : List (String × Value) :=
  ((store.ancestors id).findSome? fun parent =>
    match store.fieldHints parent with
    | [] => none
    | hints => some hints).getD []

/-- The resolved annotations of a function. -/
def functionHints (store : Store) (value : Value) (function : FunctionObject) :
    Except Hint.ResolveError Bindings :=
  let names := store.namesAround value
  Signature.resolveAll
    (store.hintScope fun name => (names.lookup name).or (Value.standard? name))
    (store.annotationsOf function)

/-- The resolved annotations of what is to be run. -/
def hintsOf (store : Store) (target : Value) : Except Fault Bindings :=
  let orUnresolved : Except Hint.ResolveError Bindings → Except Fault Bindings
    | .ok hints => .ok hints
    | .error error => .error (store.unresolved target error)
  let ofHost (owner : ClassId) (name : String) : Except Fault Bindings :=
    match ClassId.undefinedIn? owner name with
    | some missing => .error (store.unresolved target (.undefined missing))
    | none => .ok []
  let unsupported : Except Fault Bindings :=
    .error (.unresolvedSystem (store.describe target)
      (store.describe target ++ " is not a module, class, method, or function."))
  match target with
  | .cls id => orUnresolved (store.classHints id)
  | .builtin _ => .ok []
  | .module _ => .ok []
  | .hostMethod owner name => ofHost owner name
  | .bound _ (.hostMethod owner name) _ => ofHost owner name
  | .bound _ function _ =>
    match store.functionOf? function with
    | some described => orUnresolved (store.functionHints function described)
    | none => .ok []
  | .entity _ _ => .ok []
  | .object id _ =>
    match store.functionOf? target with
    | some described => orUnresolved (store.functionHints target described)
    | none =>
      match store.nearestHints id with
      | [] => unsupported
      | hints => orUnresolved (Signature.resolveAll (store.hintScope Value.standard?) hints)
  | _ => unsupported

/-- The keywords that a partial call has bound. -/
def boundKeywords (store : Store) (system : Value) : List (String × Value) :=
  match store.objectOf? system with
  | some (.partialCall _ _ keywords) => keywords
  | _ => []

end Store

namespace Action

/-- An answer that was computed, or its fault. -/
def ofExcept {α : Type} : Except Fault α → Action α
  | .ok value => done value
  | .error fault => fail fault

/-- What the host gives to one parameter, if anything. -/
def inject (call : Caller) (world system : Value) (input : Option Value) (hints : Bindings)
    (sofar : Injection) (parameter : CallParameter) : Action Injection := do
  let store ← store
  match Wanted.ofHint (hints.lookup parameter.name) with
  | .input =>
    match input with
    | some value => return sofar.give parameter value
    | none => fail (.inputMissing parameter.name)
  | .world => return sofar.give parameter world
  | .commands =>
    let queue ← call (.ofClass ClassId.commandQueue) {}
    let handle ← call (.ofClass ClassId.commands) (.ofList [queue, world])
    return { sofar.give parameter handle with handles := sofar.handles ++ [handle] }
  | .resource type =>
    let resource ← getAttribute call world "resource"
    match type with
    | none => fail .badIndex
    | some type => return sofar.give parameter (← call resource (.ofList [type]))
  | .query none => fail .badIndex
  | .query (some type) =>
    return sofar.give parameter (← call (.ofClass ClassId.query) (.ofList [world, type]))
  | .nothing =>
    if parameter.default.isSome then return sofar
    else
      let owner := match store.attribute? system "__name__" with
        | some name => store.describe name
        | none => store.describe system
      fail (.notInjectable parameter.name owner)

/-- Collect the arguments of a run. -/
def injectAll (call : Caller) (world system : Value) (input : Option Value) (hints : Bindings) :
    Injection → List CallParameter → Action Injection
  | sofar, [] => return sofar
  | sofar, parameter :: rest => do
    injectAll call world system input hints
      (← inject call world system input hints sofar parameter) rest

/-- Run a routine once with what its parameters ask for, then apply what it has recorded. -/
def runSystem (call : Caller) (world system : Value) (input : Option Value) : Action Value := do
  let store ← store
  let hints ← ofExcept (store.hintsOf (store.behindPartials store.cells.size system))
  let bound := store.boundKeywords system
  let parameters ← ofExcept (store.parameters system)
  let unbound := parameters.filter fun parameter => (bound.lookup parameter.name).isNone
  let injection ← injectAll call world system input hints {} unbound
  let answer ← call system { positional := injection.positional, keywords := injection.keywords }
  forEach injection.handles fun handle => do
    let _ ← send call handle "apply" (.ofList [world])
  return answer

end Action

end Deferred
