import Deferred.Store.Attribute

/-!
# The names of attributes

Which names a value has: those it keeps itself, those of its class, and those of the classes above
it.  The names of a class are those of its members and of what was put on it, and some more for how
it is made.
-/

namespace Deferred.Store

/-- The names that a class that is always there has beyond its members. -/
def plainNames (name : String) : List String :=
  match name with
  | "function" =>
    ["__annotations__", "__builtins__", "__closure__", "__code__", "__defaults__", "__dict__",
      "__globals__", "__kwdefaults__", "__module__", "__name__", "__qualname__"]
  | "builtin_function_or_method" =>
    ["__module__", "__name__", "__qualname__", "__self__", "__text_signature__"]
  | "method" => ["__func__", "__self__"]
  | "method-wrapper" =>
    ["__name__", "__objclass__", "__qualname__", "__self__", "__text_signature__"]
  | "method_descriptor" | "wrapper_descriptor" =>
    ["__name__", "__objclass__", "__qualname__", "__text_signature__"]
  | "module" => ["__annotations__", "__dict__"]
  | "type" => ["__prepare__", "mro"] ++ ClassId.fixedMembers
  | "BaseException" | "staticmethod" | "classmethod" => ["__dict__"]
  | "BaseExceptionGroup" => ["derive", "split", "subgroup"]
  | "ExceptionGroup" => ["__module__", "__weakref__"]
  | _ => []

/-- The names that a class has for how it is made. -/
def makingNames (store : Store) (id : ClassId) : List String :=
  let slotted := [ClassId.abstract, ClassId.generic, ClassId.pattern]
  let given (holds : Bool) (names : List String) : List String := if holds then names else []
  "__module__" ::
    (given (!slotted.contains id) ["__dict__", "__weakref__"] ++
      given (store.fieldsOfClass? id).isSome
        ["__annotations__", "__dataclass_fields__", "__dataclass_params__"] ++
      given (store.recordFields? id).isSome ["__init__", "__eq__", "__repr__", "__hash__"] ++
      given (id.maker = .abstract) ["__abstractmethods__", "_abc_impl"] ++
      given (store.typeVariablesOf? id).isSome ["__orig_bases__", "__parameters__"] ++
      given (id = ClassId.generic) ["__class_getitem__", "__init_subclass__", "_is_protocol"])

/-- The names that a class has itself. -/
def classMembers (store : Store) (id : ClassId) : List String :=
  if id = ClassId.object then ClassId.rootMembers
  else
    let put := ((Entries.get? store.attributes id).getD []).map Prod.fst
    let members := (id.members.map Prod.fst).filter fun name => !store.removed.contains (id, name)
    "__doc__" :: (put ++ members ++
      if id.isStandard then plainNames id.name else store.makingNames id)

/-- The names that a value keeps itself, its class left out. -/
def keptNames (store : Store) (value : Value) : List String :=
  match value with
  | .entity _ _ => ["index"]
  | .module module =>
    ((store.modules.made.lookup module).getD (Host.installedExports module)).map Prod.fst
  | value =>
    let inner := match store.objectOf? value with
      | some (.world _) => ["_entities", "_next_index", "_resources"]
      | some (.queue _) => ["_commands"]
      | _ => []
    inner ++ (store.attributesOf value).map Prod.fst

/-- Names in order, each of them once. -/
def inOrderOnce (names : List String) : List String :=
  names.eraseDups.mergeSort fun first second => !(second < first)

/-- The names of the attributes of a value, in order.  A class has its own and those that it
inherits; a module has nothing but what it defines. -/
def namesOf (store : Store) (value : Value) : List String :=
  let inherited (id : ClassId) : List String := (store.ancestors id).flatMap store.classMembers
  inOrderOnce (match value with
    | .cls id => inherited id
    | .module _ => store.keptNames value
    | value => store.keptNames value ++ inherited value.classId)

end Deferred.Store
