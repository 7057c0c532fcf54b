import Deferred.Call.Convert

/-!
# Making instances

Calling a class makes an instance of it.  What the instance is made of follows from the classes it
inherits from; then the constructor sets its attributes, be it the one of the class, one that was
put on it, or the one that a class made of fields has.
-/

namespace Deferred.Action

/-- Give names to values. -/
def nameValues (parameters : List CallParameter) (values : List Value) : Bindings :=
  (parameters.map CallParameter.name).zip values

/-! ## What instances are made of -/

/-- The classes whose instances are plain values. -/
def plainClasses : List ClassId :=
  [ClassId.int, ClassId.float, ClassId.text, ClassId.tuple, ClassId.complex, ClassId.octets]

/-- The classes that have no instances of their own. -/
def abstractClasses : List ClassId :=
  [ClassId.command, ClassId.entityCommand, ClassId.generic, ClassId.any, ClassId.annotated]

/-- What a new instance of a class is made of, before its constructor is run. -/
def blank (machine : Machine) (id : ClassId) (arguments : Arguments) : Action Object := do
  let ancestors := (← store).ancestors id
  if abstractClasses.contains id || ancestors.contains ClassId.type then
    fail (.misuse .abstractClass)
  else if ancestors.contains ClassId.world then return .world {}
  else if ancestors.contains ClassId.commandQueue then return .queue []
  else if ancestors.contains ClassId.baseException then return .exception arguments.positional
  else if ancestors.contains ClassId.list then return .list []
  else if ancestors.contains ClassId.dict then return .dict []
  else if ancestors.contains ClassId.set then return .set {}
  else if ancestors.contains ClassId.octetArray then return .octets []
  else if ancestors.contains ClassId.frozenSet then
    match arguments.positional with
    | source :: _ => return .set (← setFrom machine source)
    | [] => return .set {}
  else
    match plainClasses.find? ancestors.contains with
    | none => return .plain
    | some base => return .extended (← convert machine base arguments)

/-! ## Constructors -/

/-- What a constructor means by a name of its own: a field of that name hides it. -/
def unlessHidden (given : Bindings) (name : String) (value : Value) : Value :=
  (given.lookup name).getD value

/-- Set the fields of a new instance, each to its argument or to its default. -/
def setFields (call : Caller) (made : Value) (given : Bindings) : List RecordField → Action Unit
  | [] => done ()
  | field :: rest => do
    let value ← match given.lookup field.name, field.factory with
      | some value, some factory =>
        if Value.same value (unlessHidden given "_HAS_DEFAULT_FACTORY" RecordField.made) then
          call (unlessHidden given ("_dflt_" ++ field.name) factory) {}
        else done value
      | some value, none => done value
      | none, _ => fail (.misuse .arguments)
    assignAttribute call made field.name value
    setFields call made given rest

/-- The constructor of a class made of fields. -/
def constructRecord (call : Caller) (made : Value) (fields : List RecordField)
    (arguments : Arguments) : Action Unit := do
  let receiver := if fields.any (·.name = "self") then "__dataclass_self__" else "self"
  let bound ← Arguments.bindTo (made.classId.name ++ ".__init__")
    (CallParameter.plain receiver :: RecordField.parameters fields)
    { arguments with positional := made :: arguments.positional }
  setFields call made (bound.drop 1) fields
  let declared := Entries.get? (← store).generated made.classId
  if (declared.map GeneratedClass.settles).getD false then
    let _ ← send call made "__post_init__" {}
  else done ()

/-- The values that a class of the host makes when it is called. -/
def constructValue? (id : ClassId) (values : List Value) : Option (Action Value) :=
  match values with
  | [.tuple names _] =>
    if id = ClassId.pattern then some (fresh (.pattern names)) else single? (.tuple names 0)
  | [value] => single? value
  | _ => none
where
  single? (value : Value) : Option (Action Value) :=
    if id = ClassId.entity then some (fresh (.entity value))
    else if id = ClassId.success then some (fresh (.success value))
    else if id = ClassId.failure then some (fresh (.failure value))
    else if id = ClassId.scriptCommand ∨ id = ClassId.scriptEntityCommand then
      some (allocate id (.scripted value))
    else none

/-- Make an instance of a class with the constructor that the class has from the start; `owner` is
the class that brings the constructor along. -/
def constructHost (machine : Machine) (id owner : ClassId) (parameters : List CallParameter)
    (arguments : Arguments) : Action Value := do
  let values ← valuesFor (owner.name ++ ".__init__") parameters arguments
  match constructValue? id values with
  | some action => action
  | none => do
    let object ← blank machine id arguments
    let named := nameValues parameters values
    if owner.isComponent then do
      let made ← allocate id object
      forEach named fun (name, value) => assignAttribute machine.call made name value
      return made
    else if owner.isFrozen ∨ owner = ClassId.outcome then
      allocate id object (named.map fun (name, value) =>
        (if name = "inner_value" then "_inner_value" else name, value))
    else if named.isEmpty then allocate id object
    else do
      let made ← allocate id object
      let _ ← hostMethod machine owner "__init__" (made :: values)
      return made

/-- Make an instance of a class that has no say in how its instances come to be. -/
def constructPlain (machine : Machine) (id : ClassId) (arguments : Arguments) :
    Action Value := do
  let store ← store
  match store.find id "__init__" with
  | some (.value function) => do
    let made ← allocate id (← blank machine id arguments)
    let answer ← if store.isFunction function then
        machine.call function { arguments with positional := made :: arguments.positional }
      else machine.call function arguments
    match answer with
    | .absent => return made
    | _ => fail (.misuse .operands)
  | some (.member owner _ kind) =>
    match store.recordFields? owner, kind with
    | some fields, _ => do
      let made ← allocate id (← blank machine id arguments)
      constructRecord machine.call made fields arguments
      return made
    | none, .method parameters => constructHost machine id owner parameters arguments
    | none, _ =>
      if store.isSubclass id ClassId.baseException then constructException machine id arguments
      else if id = ClassId.partialCall then
        match arguments.positional with
        | [] => fail (.misuse .arguments)
        | function :: rest => partially function { arguments with positional := rest }
      else if id.isStandard then convert machine id arguments
      else if owner.isStandard && owner ≠ ClassId.object then do
        let made ← allocate id (← blank machine id {})
        let _ ← standardMethod machine owner made "__init__" arguments.positional
        return made
      else if (plainClasses ++ [ClassId.frozenSet]).any (store.isSubclass id ·) then do
        allocate id (← blank machine id arguments)
      else if (store.hostConstructor id).isEmpty &&
          !(arguments.positional.isEmpty && arguments.keywords.isEmpty) then
        fail (.mismatch (id.name ++ "() takes no arguments"))
      else constructHost machine id id (store.hostConstructor id) arguments
  | none => fail (.misuse .arguments)

/-- Does a class make its instances the way the root of all classes does? -/
def isRootMade (store : Store) (id : ClassId) : Bool :=
  match store.find id "__new__" with
  | some (.member owner _ _) => owner = ClassId.object
  | _ => true

/-- Make an instance of the class that is the first argument the way that `owner` does, a class that
is always there; a constructor is not run. -/
def newInstance (machine : Machine) (owner : ClassId) (arguments : Arguments) : Action Value := do
  let store ← store
  match arguments.positional with
  | .cls id :: rest => do
    let given := { arguments with positional := rest }
    let containers := [ClassId.list, ClassId.dict, ClassId.set, ClassId.octetArray]
    if !store.isSubclass id owner then fail (.misuse .operands)
    else if owner = ClassId.object then
      if isRootMade store id then do allocate id (← blank machine id {})
      else fail (.misuse .operands)
    else if store.isSubclass id ClassId.baseException then constructException machine id given
    else if id = owner && !containers.contains id then convert machine id given
    else do allocate id (← blank machine id given)
  | _ => fail (.misuse .arguments)

/-- Make an instance of a class.  A function that was put on the class to make instances is asked
for one. -/
def construct (machine : Machine) (id : ClassId) (arguments : Arguments) : Action Value := do
  let before ← store
  match before.find id "__new__" with
  | some (.value maker) => do
    let made ← machine.call maker
      { arguments with positional := .ofClass id :: arguments.positional }
    if (← store).isInstance made id then do
      let _ ← send machine.call made "__init__" arguments
      return made
    else return made
  | _ => constructPlain machine id arguments

end Deferred.Action
