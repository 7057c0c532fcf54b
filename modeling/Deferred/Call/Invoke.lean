import Deferred.Call.PartMethod
import Deferred.Call.StandardFunction
import Deferred.Code.Evaluate
import Deferred.Script.Evaluate

/-!
# Calling values

What a call does depends on what is called: a class makes an instance, a method acts on its
receiver, a function binds its parameters and runs its body.  Every kind of call is one step that is
given how the calls inside it are made; the calls inside a call may nest to a bound.
-/

namespace Deferred

namespace Action

/-! ## Functions -/

/-- Run a script in a new scope, with the variables of another scope and some of its own. -/
def runScript (machine : Machine) (body : Script) (scope : Ref) (own : Bindings) :
    Action Value := do
  let store ← store
  let inner ← allocate ClassId.dict
    (.scope (store.moduleOf scope) (Entries.putAll (store.locals scope) own))
  match inner with
  | .object _ place => body.evaluate machine place
  | _ => return .absent

/-- Call the implementation for the class of the first argument. -/
def callDispatching (machine : Machine) (implementations : List (ClassId × Value))
    (otherwise : Value) (arguments : Arguments) : Action Value := do
  let store ← store
  match arguments.positional with
  | [] =>
    let name := ((store.functionOf? otherwise).map FunctionObject.name).getD "function"
    fail (.mismatch (name ++ " requires at least 1 positional argument"))
  | first :: _ =>
    machine.call (implementationFor store implementations otherwise first.classId) arguments

/-- Call a function. -/
def callFunction (machine : Machine) (function : FunctionObject) (arguments : Arguments) :
    Action Value := do
  match function.body with
  | .dispatch implementations otherwise =>
    callDispatching machine implementations otherwise arguments
  | .script body scope => do
    runScript machine body scope (← arguments.bindTo function.qualname function.parameters)
  | .code body space => do
    Code.runBody ⟨machine, space⟩ (← arguments.bindTo function.qualname function.parameters) body
  | .codeClosure body around space => do
    let own ← arguments.bindTo function.qualname function.parameters
    Code.evaluate ⟨machine, space⟩ (Entries.putAll around own) body
  | .suspended => do
    let _ ← arguments.bindTo function.qualname function.parameters
    allocate (.declared "builtins" "coroutine") .plain
  | .inert => do
    let _ ← arguments.bindTo function.qualname function.parameters
    return .absent

/-! ## Methods -/

/-- Call a method that a class made of fields has. -/
def callRecordMethod (machine : Machine) (owner : ClassId) (fields : List RecordField)
    (name : String) (receiver : Value) (arguments : Arguments) : Action Value := do
  let store ← store
  match name, arguments.positional with
  | "__init__", _ => silently (constructRecord machine.call receiver fields arguments)
  | "__eq__", [other] =>
    if receiver.classId = other.classId then return .bool (store.equal receiver other)
    else return .declined
  | "__repr__", [] => told machine.call { value := receiver }
  | name, positional => standardMethod machine owner receiver name positional

/-- Call a method that classes have as values. -/
def callClassMethod (machine : Machine) (name : String) (arguments : Arguments) :
    Action Value := do
  let store ← store
  match name, arguments.positional with
  | "register", [.cls parent, type] => registerImplementer machine.call parent type
  | "__instancecheck__", [type, value] => answering (isInstanceOf machine value type)
  | "__subclasscheck__", [type, value] => answering (isSubclassOf machine value type)
  | "mro", [.cls id] => newList ((store.ancestors id).map .ofClass)
  | "__subclasses__", [.cls id] =>
    newList ((store.generated.filter fun (_, declared) => declared.bases.contains id).map
      fun (other, _) => .ofClass other)
  | "__call__", target :: positional => machine.call target { arguments with positional }
  | name, target :: positional => rootMethod machine target name positional
  | _, [] => fail (.misuse .arguments)

/-- Call a method that a class of the host has for its instances being compared by what they hold;
`none` for any other name. -/
def comparedMethod? (machine : Machine) (owner : ClassId) (receiver : Value) (name : String)
    (arguments : List Value) : Option (Action Value) :=
  match name, arguments with
  | "__eq__", [other] =>
    if owner = ClassId.pattern then some do
      if (← store).isInstance other owner then agree other else return .bool false
    else some (unlessOther other .equal)
  | "__setattr__", [part, _] => some do fail (.frozen (← nameArgument part))
  | "__delattr__", [part] => some do fail (.kept (← nameArgument part))
  | "__repr__", [] => some do
    if (← store).isInstance receiver owner then told machine.call { value := receiver }
    else fail (.noAttribute "__qualname__")
  | "__hash__", [] => some (digestOf receiver)
  | name, [other] => (BinaryOperator.ofMethod? name).map (unlessOther other)
  | _, _ => none
where
  agree (other : Value) : Action Value := do return .bool ((← store).equal receiver other)
  unlessOther (other : Value) (operator : BinaryOperator) : Action Value := do
    if receiver.classId ≠ other.classId then return .declined
    else if operator = .equal then agree other
    else operate machine operator receiver other

/-- Call a method that a class of the host has from the start. -/
def callHostMethod (machine : Machine) (owner : ClassId) (name : String)
    (parameters : List CallParameter) (arguments : Arguments) : Action Value := do
  let values ← valuesFor (owner.name ++ "." ++ name)
    (CallParameter.plain "self" :: parameters) arguments
  match values with
  | [] => fail (.misuse .arguments)
  | receiver :: rest =>
    if (owner.comparedMembers.lookup name).isSome then
      (comparedMethod? machine owner receiver name rest).getD (fail (.misuse .arguments))
    else if owner = ClassId.outcome then outcomeMethod machine.call receiver name rest
    else if owner = ClassId.capabilities then capabilityMethod machine name values
    else if owner = ClassId.sourceMap then sourceMapMethod machine name values
    else if owner.isComponent then
      silently (forEach (nameValues parameters rest) fun (part, value) =>
        assignAttribute machine.call receiver part value)
    else if owner = ClassId.entity then
      silently (forEach (nameValues parameters rest) fun (part, value) =>
        setAttribute receiver part value)
    else hostMethod machine owner name values

/-- The arguments of a method of a class that is always there, fitted to its parameters where these
are known. -/
def standardArguments (owner : ClassId) (name : String) (member : Option Member)
    (arguments : Arguments) : Action (List Value) :=
  match member with
  | some (.method parameters) => valuesFor (owner.name ++ "." ++ name) parameters arguments
  | _ =>
    if arguments.keywords.isEmpty then return arguments.positional
    else fail (.misuse .arguments)

/-- Call a method of a class that is always there, not bound to a receiver yet. -/
def callStandardMember (machine : Machine) (owner : ClassId) (name : String)
    (arguments : Arguments) : Action Value := do
  let store ← store
  match arguments.positional with
  | [] => fail (.misuse .noReceiver)
  | receiver :: rest => do
    let member := owner.members.lookup name
    let given := { arguments with positional := rest }
    match owner.belongsToClass name, receiver with
    | true, .cls id =>
      if name = "__new__" then newInstance machine owner given
      else do
        standardClassMethod machine id name (← standardArguments owner name member given)
    | _, _ =>
      if !store.isInstance receiver owner then fail (.misuse .noReceiver)
      else if name = "__call__" then machine.call receiver given
      else
        match if name = "__init__" then refill? machine owner receiver given else none with
        | some action => silently action
        | none => do
          standardMethod machine owner receiver name
            (← standardArguments owner name member given)

/-- Call a method that a class has from the start, not bound to a receiver yet. -/
def callMember (machine : Machine) (owner : ClassId) (name : String) (arguments : Arguments) :
    Action Value := do
  let store ← store
  match owner.members.lookup name, arguments.positional with
  | some (.method parameters), _ =>
    if owner = ClassId.abstractMeta then do
      let _ ← valuesFor (owner.name ++ "." ++ name) (CallParameter.plain "cls" :: parameters)
        arguments
      callClassMethod machine name arguments
    else if owner.isStandard then callStandardMember machine owner name arguments
    else callHostMethod machine owner name parameters arguments
  | _, receiver :: rest =>
    if (owner = ClassId.type && !owner.belongsToClass name) ∨ owner = ClassId.abstractMeta then
      callClassMethod machine name arguments
    else
      match store.recordFields? owner with
      | some fields =>
        callRecordMethod machine owner fields name receiver { arguments with positional := rest }
      | none => callStandardMember machine owner name arguments
  | _, [] => fail (.misuse .noReceiver)

/-- Call an object by the method that its class has for being called. -/
def callObject (machine : Machine) (target : Value) (arguments : Arguments) : Action Value := do
  let store ← store
  match special? store target "__call__" with
  | some found =>
    if store.isFunction found then
      machine.call found { arguments with positional := target :: arguments.positional }
    else machine.call found arguments
  | none => fail (.misuse .notCallable)

/-- Remember the type that an instance was made through. -/
def rememberType (type made : Value) : Action Value := do
  match ← attempt (setAttribute made "__orig_class__" type) with
  | .ok _ => return made
  | .error fault =>
    if isMissing fault ∨ type.classId = ClassId.builtinAlias then return made else fail fault

/-- Call a value, given how the calls inside it are made. -/
def callStep (machine : Machine) (target : Value) (arguments : Arguments) : Action Value := do
  match target with
  | .cls id => construct machine id arguments
  | .applied id _ _ => do rememberType target (← construct machine id arguments)
  | .annotated inner _ => machine.call inner arguments
  | .builtin name => callStandard machine name arguments
  | .hostMethod owner name => callMember machine owner name arguments
  | .bound receiver function _ =>
    machine.call function { arguments with positional := receiver :: arguments.positional }
  | .object _ place => do
    let store ← store
    match store.object? place with
    | some (.function function) => callFunction machine function arguments
    | some (.partialCall function positional keywords) =>
      machine.call function
        { positional := positional ++ arguments.positional
          keywords := Entries.putAll keywords arguments.keywords }
    | _ => callObject machine target arguments
  | _ => callObject machine target arguments

/-- Call a value, with calls nested to a depth of at most `bound`. -/
def invoke : Nat → Caller
  | 0 => fun _ _ => fail .outOfFuel
  | bound + 1 => callStep { call := invoke bound, bound }

/-- The machine on which the steps of a scenario run. -/
def machine (bound : Nat) : Machine := { call := invoke bound, bound }

end Action

end Deferred
