import Deferred.Class.Special

/-!
# Classes

Roles, components and records are told apart by the identity of a class, never by its name alone.
A declared class is known by the module that defines it and its name there; a generated class has
a serial number of its own, since two generations may choose the same name.
-/

namespace Deferred

/-- What a class is made by. -/
inductive Maker where
  /-- The maker of ordinary classes. -/
  | plain
  /-- The maker of classes that are meant to be implemented. -/
  | abstract
  /-- The maker of the class that says nothing. -/
  | anything
  deriving DecidableEq, Repr, Inhabited

/-- The identity of a class. -/
inductive ClassId where
  /-- A class known from the start, by its home module and its name. -/
  | declared (home name : String)
  /-- The record class of a generation. -/
  | record (serial : Nat) (home name : String) (maker : Maker)
  /-- The extension class of a generation. -/
  | extension (serial : Nat) (home name : String) (maker : Maker)
  deriving DecidableEq, Repr, Inhabited

namespace ClassId

/-- The module a class says it belongs to. -/
def home : ClassId → String
  | declared home _ => home
  | record _ home _ _ => home
  | extension _ home _ _ => home

/-- The name a class goes by. -/
def name : ClassId → String
  | declared _ name => name
  | record _ _ name _ => name
  | extension _ _ name _ => name

/-- The dotted path of a class; the classes that need no module have none in their path. -/
def path (id : ClassId) : String :=
  if id.home = "builtins" then id.name else id.home ++ "." ++ id.name

/-- A class as it is shown on its own. -/
def spelling (id : ClassId) : String :=
  "<class '" ++ id.path ++ "'>"

/-- Was the class made by a generation? -/
def isGenerated : ClassId → Bool
  | declared _ _ => false
  | _ => true

/-! ## Classes of plain values -/

def object : ClassId := declared "builtins" "object"
def none : ClassId := declared "builtins" "NoneType"
def bool : ClassId := declared "builtins" "bool"
def int : ClassId := declared "builtins" "int"
def float : ClassId := declared "builtins" "float"
def text : ClassId := declared "builtins" "str"
def list : ClassId := declared "builtins" "list"
def tuple : ClassId := declared "builtins" "tuple"
def dict : ClassId := declared "builtins" "dict"
def set : ClassId := declared "builtins" "set"
def frozenSet : ClassId := declared "builtins" "frozenset"
def complex : ClassId := declared "builtins" "complex"
def octets : ClassId := declared "builtins" "bytes"
def octetArray : ClassId := declared "builtins" "bytearray"
def range : ClassId := declared "builtins" "range"
def slice : ClassId := declared "builtins" "slice"
def type : ClassId := declared "builtins" "type"
def function : ClassId := declared "builtins" "function"
def builtin : ClassId := declared "builtins" "builtin_function_or_method"
def method : ClassId := declared "builtins" "method"
def module : ClassId := declared "builtins" "module"
def listIterator : ClassId := declared "builtins" "list_iterator"
def generator : ClassId := declared "builtins" "generator"
def mappingView : ClassId := declared "builtins" "mappingproxy"
def staticMethod : ClassId := declared "builtins" "method_descriptor"
def staticMethodWrapper : ClassId := declared "builtins" "staticmethod"
def classMethodWrapper : ClassId := declared "builtins" "classmethod"
def memory : ClassId := declared "builtins" "memoryview"
def slotWrapper : ClassId := declared "builtins" "wrapper_descriptor"
def boundSlot : ClassId := declared "builtins" "method-wrapper"
def baseException : ClassId := declared "builtins" "BaseException"
def partialCall : ClassId := declared "functools" "partial"
def ellipsis : ClassId := declared "builtins" "ellipsis"
def declined : ClassId := declared "builtins" "NotImplementedType"

/-! ## Classes of the reference host -/

def world : ClassId := declared "commandify.ecs.world" "World"
def entityAccess : ClassId := declared "commandify.ecs.world" "EntityWorldMut"
def entity : ClassId := declared "commandify.ecs.entity" "Entity"
def input : ClassId := declared "commandify.ecs.system" "In"
def resource : ClassId := declared "commandify.ecs.system" "Res"
def resourceMut : ClassId := declared "commandify.ecs.system" "ResMut"
def query : ClassId := declared "commandify.ecs.system" "Query"
def commands : ClassId := declared "commandify.ecs.command" "Commands"
def entityCommands : ClassId := declared "commandify.ecs.command" "EntityCommands"
def command : ClassId := declared "commandify.ecs.command" "Command"
def entityCommand : ClassId := declared "commandify.ecs.command" "EntityCommand"
def commandQueue : ClassId := declared "commandify.ecs.command" "CommandQueue"
def closureCommand : ClassId := declared "commandify.ecs.command" "_Closure"
def scopedCommand : ClassId := declared "commandify.ecs.command" "_EntityScoped"
def insertResource : ClassId := declared "commandify.ecs.command" "_InsertResource"
def insertComponents : ClassId := declared "commandify.ecs.command" "_InsertComponents"
def despawn : ClassId := declared "commandify.ecs.command" "_Despawn"

/-! ## Outcomes, patterns and generated artifacts -/

def outcome : ClassId := declared "returns.result" "Result"
def success : ClassId := declared "returns.result" "Success"
def failure : ClassId := declared "returns.result" "Failure"
def pattern : ClassId := declared "commandify.types" "Bind"
def artifact : ClassId := declared "commandify.types" "ArtifactSet"
def generic : ClassId := declared "typing" "Generic"
def abstract : ClassId := declared "abc" "ABC"
def abstractMeta : ClassId := declared "abc" "ABCMeta"
def typeVariable : ClassId := declared "typing" "TypeVar"
def typingAlias : ClassId := declared "typing" "_GenericAlias"
def builtinAlias : ClassId := declared "types" "GenericAlias"
def specialForm : ClassId := declared "typing" "_SpecialForm"
def unionAlias : ClassId := declared "typing" "_UnionGenericAlias"
def annotatedAlias : ClassId := declared "typing" "_AnnotatedAlias"
def forwardReference : ClassId := declared "typing" "ForwardRef"
def anyMeta : ClassId := declared "typing" "_AnyMeta"
def any : ClassId := declared "typing" "Any"
def annotated : ClassId := declared "typing" "Annotated"
def callable : ClassId := declared "collections.abc" "Callable"

/-! ## Classes of the module that scripts start from -/

def gold : ClassId := declared "game" "Gold"
def health : ClassId := declared "game" "Health"
def label : ClassId := declared "game" "Label"
def journal : ClassId := declared "game" "Log"
def localWorld : ClassId := declared "game" "LocalWorld"
def localCommands : ClassId := declared "game" "LocalCommands"
def foreignWorld : ClassId := declared "other" "World"
def foreignEntity : ClassId := declared "other" "Entity"
def foreignInput : ClassId := declared "other" "In"

/-! ## Commands that call a function of a script -/

def scriptCommand : ClassId := declared "__main__" "ScriptCommand"
def scriptEntityCommand : ClassId := declared "__main__" "ScriptEntityCommand"

/-- The component classes: one field, compared by value, never hashed. -/
def components : List ClassId := [gold, health, label, journal]

/-- The parts of what a generation made, apart from the generation itself. -/
def specification : ClassId := declared "commandify.types" "CommandSpec"
def parameter : ClassId := declared "commandify.types" "Parameter"
def sourceMap : ClassId := declared "commandify.types" "SourceMap"
def field : ClassId := declared "commandify.types" "RecordField"
def mode : ClassId := declared "commandify.types" "Mode"
def parameterKind : ClassId := declared "inspect" "_ParameterKind"
def missing : ClassId := declared "inspect" "_empty"
def options : ClassId := declared "commandify.options" "MacroOptions"
def capabilities : ClassId := declared "commandify.host" "HostCapabilities"
def span : ClassId := declared "commandify.errors" "Span"

/-- The classes whose instances never change. -/
def frozenClasses : List ClassId :=
  [entity, closureCommand, scopedCommand, insertResource, insertComponents, despawn, artifact,
    specification, parameter, sourceMap, field, options, capabilities, span]

/-- Do the instances of a class never change? -/
def isFrozen (id : ClassId) : Bool := frozenClasses.contains id

/-- Is this one of the component classes? -/
def isComponent (id : ClassId) : Bool := components.contains id

/-- Does a class that is always there take arguments in brackets as they are? -/
def isBuiltinGeneric (id : ClassId) : Bool :=
  match id with
  | declared home name => home = "builtins" && Standard.genericClasses.contains name
  | _ => false

/-- Is the class one of those that are always there? -/
def isStandard (id : ClassId) : Bool :=
  match id with
  | declared home _ => home = "builtins"
  | _ => false

/-- Can no other class inherit from the class? -/
def isClosed (id : ClassId) : Bool :=
  id.isStandard && Standard.closedClasses.contains id.name

/-- The classes whose instances are compared by value and can change, and so are no keys. -/
def isUnhashable (id : ClassId) : Bool :=
  match id with
  | record _ _ _ _ => true
  | id => (id.isStandard && Standard.unhashableClasses.contains id.name) || id.isComponent

/-- The class of what stands on a class for a part of its instances; a method is no such part. -/
def partKind? (owner : ClassId) (name : String) : Option ClassId :=
  if name = "__weakref__" then some (declared "builtins" "getset_descriptor")
  else if owner.isStandard ∧ (Standard.parts owner.name).contains name then
    some (declared "builtins"
      (if Standard.isComputed owner.name name then "getset_descriptor" else "member_descriptor"))
  else if (owner = pattern ∧ name = "names") ∨
      (owner = partialCall ∧ ["func", "args", "keywords"].contains name) then
    some (declared "builtins" "member_descriptor")
  else if [(commands, "queue"), (entityCommands, "commands"), (entityAccess, "world")].contains
      (owner, name) then
    some (declared "builtins" "property")
  else Option.none

/-- The class of the functions that a class has from the start, seen on the class. -/
def functionKind (owner : ClassId) (name : String) : ClassId :=
  if let some kind := partKind? owner name then kind
  else if !owner.isStandard then function
  else if Standard.isPlain owner.name name then staticMethod
  else if name.startsWith "__" then slotWrapper
  else staticMethod

/-- Does a member of a class belong to the class itself rather than to its instances? -/
def belongsToClass (owner : ClassId) (name : String) : Bool :=
  owner.isStandard &&
    (Standard.classMethods.contains name || name = "__new__" ||
      [("int", "from_bytes"), ("float", "fromhex"), ("bytes", "fromhex"), ("bytearray", "fromhex"),
        ("dict", "fromkeys"), ("str", "maketrans"), ("bytes", "maketrans"),
        ("bytearray", "maketrans")].contains (owner.name, name))

/-- The class of such functions once they are bound to a receiver. -/
def methodKind (owner : ClassId) (name : String) : ClassId :=
  let kind := functionKind owner name
  if kind = function then method else if kind = slotWrapper then boundSlot else builtin

/-- How many type arguments a class takes in brackets, for the classes that check the number. -/
def arity? (id : ClassId) : Option Nat :=
  if [input, resource, resourceMut, query, foreignInput].contains id then some 1
  else if id = outcome then some 2
  else Option.none

/-- The direct bases of a declared class. -/
def declaredBases (id : ClassId) : List ClassId :=
  if id = object then []
  else if id = bool ∨ id = parameterKind then [int]
  else if id = localWorld then [world]
  else if id = localCommands then [commands]
  else if [closureCommand, scopedCommand, insertResource].contains id then [command]
  else if [insertComponents, despawn].contains id then [entityCommand]
  else if id = scriptCommand then [command]
  else if id = scriptEntityCommand then [entityCommand]
  else if id = success ∨ id = failure then [outcome]
  else if id = outcome then [abstract]
  else if id = abstractMeta ∨ id = anyMeta then [type]
  else if id = unionAlias ∨ id = annotatedAlias then [typingAlias]
  else if [input, resource, resourceMut, query, foreignInput].contains id then [generic]
  else if id.home = "commandify.ecs.errors" then
    [declared "builtins" (if id.name = "SystemParamError" then "TypeError"
      else if id.name = "QueryEntityError" then "LookupError" else "KeyError")]
  else if id = declared "builtins" "ExceptionGroup" then
    [declared "builtins" "BaseExceptionGroup", declared "builtins" "Exception"]
  else if id.isStandard then
    [declared "builtins" ((Standard.exceptions.lookup id.name).getD "object")]
  else if id = command ∨ id = entityCommand then [abstract]
  else [object]

/-- What makes a class. -/
def maker (id : ClassId) : Maker :=
  match id with
  | record _ _ _ maker => maker
  | extension _ _ _ maker => maker
  | id =>
    if id = any then .anything
    else if [abstract, command, entityCommand, closureCommand, scopedCommand, insertResource,
      insertComponents, despawn, scriptCommand, scriptEntityCommand, outcome, success,
      failure].contains id then .abstract
    else .plain

end ClassId

end Deferred
