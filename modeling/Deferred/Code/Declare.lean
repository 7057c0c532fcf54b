import Deferred.Call.Parameters

/-!
# Declaring classes

A class is declared by its name, its bases and the names that its body binds.  Not everything can
stand among the bases: a base has to be a class that lets others inherit from it, or a type that
stands for such a class, and the bases together have to allow one order of inheritance.
-/

namespace Deferred.Action

/-- The classes that written bases stand for.  What is no class at all is left as it is. -/
def standForBases : List Value → Action (List Value)
  | [] => return []
  | base :: rest => do
    let shown := (← store).describe base
    let refused : Action Value := fail (.mismatch ("Cannot subclass " ++ shown))
    let first ← match base with
      | .applied id _ _ => done (.cls id)
      | .annotated inner _ => done inner
      | .special _ => refused
      | .optional _ => refused
      | .classVar _ => refused
      | base => done base
    return first :: (← standForBases rest)

/-- The type variables that a class can be applied to: those it names, or else those in its
bases. -/
def variablesOf (bases : List Value) : List Value :=
  let named := bases.findSome? fun
    | .applied id given _ => if id = ClassId.generic then some given else none
    | _ => none
  named.getD ((Value.collectAll bases []).map .typeVariable)

/-- What keeps a value that is no class from being the only base. -/
def notABase (store : Store) (base : Value) : Fault :=
  let tooMany (name : String) : String := name ++ " expected at most 1 argument, got 3"
  let takes (name : String) (count : Nat) : String :=
    name ++ ".__init__() takes " ++ toString count ++ " positional argument" ++
      (if count = 1 then "" else "s") ++ " but 4 were given"
  match base with
  | .absent => .mismatch "NoneType takes no arguments"
  | .ellipsis => .mismatch "EllipsisType takes no arguments"
  | .bool _ => .mismatch (tooMany "bool")
  | .int _ _ => .mismatch "int() takes at most 2 arguments (3 given)"
  | .float _ _ => .mismatch (tooMany "float")
  | .text _ _ => .mismatch "str() argument 'encoding' must be str, not tuple"
  | .tuple _ _ => .mismatch (tooMany "tuple")
  | .typeVariable name =>
    .mismatch ("TypeVar(name, constraint, ...): constraints must be types. Got (~" ++ name ++ ",).")
  | .module _ => .mismatch "module() takes at most 2 arguments (3 given)"
  | .builtin _ => .mismatch "cannot create 'builtin_function_or_method' instances"
  | .pattern _ _ => .noAttribute "__dataclass_params__"
  | .noInput => .mismatch "object() takes no arguments"
  | .entity _ _ => .mismatch (takes "Entity" 2)
  | .success _ _ => .mismatch (takes "Success" 2)
  | .failure _ _ => .mismatch (takes "Failure" 2)
  | value =>
    let id := value.classId
    if id = ClassId.function then
      .mismatch "function() argument 'code' must be code, not str"
    else if id.isStandard then .mismatch (tooMany id.name)
    else .mismatch (takes id.name
      (match store.parametersWithin 3 (.cls id) with
        | .ok parameters => parameters.length + 1
        | .error _ => 1))

/-- The bases as classes; every other value is refused. -/
def classesOf (store : Store) (bases : List Value) : Except Fault (List ClassId) :=
  match bases.filter (·.asClass?.isNone), bases with
  | [], bases => .ok (bases.filterMap Value.asClass?)
  | other :: _, [_] => .error (notABase store other)
  | _, _ =>
    .error (.mismatch ("metaclass conflict: the metaclass of a derived class must be a " ++
      "(non-strict) subclass of the metaclasses of all its bases"))

/-- What makes a class with some bases. -/
def makerFor (bases : List ClassId) : Maker :=
  match bases.map ClassId.maker |>.find? (· ≠ .plain) with
  | some maker => maker
  | none => .plain

/-- Is a base above one that comes after it? -/
def isAboveLater (store : Store) : List ClassId → Bool
  | [] => false
  | id :: rest => rest.any (fun later => (store.ancestors later).contains id) ||
      isAboveLater store rest

/-- What is wrong with the bases of a class in the module `home`; `isApplied` tells that the type
variables of the class are among its bases. -/
def baseFault? (store : Store) (home : String) (isApplied : Bool) (bases : List ClassId) :
    Option Fault :=
  let refused (words : String) : Option Fault := some (.mismatch words)
  match bases.find? ClassId.isClosed with
  | some closed => refused ("type " ++ Text.quote closed.name ++ " is not an acceptable base type")
  | none =>
    if bases.length ≠ bases.eraseDups.length then
      refused ("duplicate base class " ++ ((bases.head?.map ClassId.name).getD ""))
    else if isAboveLater store bases then
      refused ("Cannot create a consistent method resolution\norder (MRO) for bases " ++
        String.intercalate ", " (bases.map ClassId.name))
    else if bases.contains ClassId.annotated then
      refused ("Cannot subclass " ++ home ++ ".Annotated")
    else if bases.contains ClassId.generic && !isApplied then
      refused "Cannot inherit from plain Generic"
    else none

/-- What is wrong with a name that the body of a class binds and that classes use themselves. -/
def bodyFault? (store : Store) (body : Bindings) : Option Fault :=
  let kindOf (name : String) : Option ClassId := (Entries.get? body name).map Value.classId
  match kindOf "__slots__", kindOf "__qualname__", Entries.get? body "__classcell__" with
  | some id, _, _ => some (.mismatch (Text.quote id.name ++ " object is not iterable"))
  | none, some id, _ =>
    some (.mismatch ("type __qualname__ must be a str, not " ++ id.name))
  | none, none, some cell =>
    some (.mismatch ("__classcell__ must be a nonlocal cell, not " ++
      store.describe (.ofClass cell.classId)))
  | none, none, none => none

/-- Declare a class.  `recorded` tells that its instances will be made of fields. -/
def declareClass (recorded : Bool) (name home : String) (bases : List Value)
    (typeVariables : List Value) (body : Bindings) : Action Value := do
  let store ← store
  match classesOf store bases with
  | .error fault => fail fault
  | .ok classes => do
    if let some fault := bodyFault? store body then fail fault
    if let some fault := baseFault? store home (!typeVariables.isEmpty) classes then fail fault
    let serial := store.generated.length
    let maker := makerFor classes
    let body := if maker = .abstract then
        body.filter fun (name, _) => name ≠ "__abstractmethods__" && name ≠ "_abc_impl"
      else body
    let id : ClassId :=
      if recorded then .record serial home name maker else .extension serial home name maker
    let ancestors := id :: Store.keepLast (classes.flatMap store.ancestors)
    perform (.declareClass id { bases := classes, ancestors, typeVariables })
    forEach body fun (name, value) => perform (.setClassAttribute id name value)
    return .cls id

end Deferred.Action
