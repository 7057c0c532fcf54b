import Deferred.Store.Member

/-!
# Members of classes

The methods and properties that classes have from the start.  A method is known by the class that
defines it, and its parameters decide which calls fit.
-/

namespace Deferred

namespace ClassId

open CallParameter in
/-- The methods that a class has for its instances being compared by what they hold. -/
def comparedMembers (id : ClassId) : List (String × Member) :=
  let telling : List (String × Member) :=
    [("__eq__", .method [plain "other"]), ("__repr__", .method [])]
  let digest : String × Member := ("__hash__", .method [])
  if id.isComponent then telling ++ [("__hash__", .value .absent)]
  else if id = pattern then telling ++ [digest]
  else if id.isFrozen then
    telling ++ [digest, ("__setattr__", .method [plain "name", plain "value"]),
      ("__delattr__", .method [plain "name"])] ++
      (if id = entity then
        ["__lt__", "__le__", "__gt__", "__ge__"].map (·, .method [plain "other"])
      else [])
  else []

open CallParameter in
/-- The members of a class that nothing else tells, its bases not counted. -/
def namedMembers (id : ClassId) : List (String × Member) :=
  if id = world then
    [("__init__", .method []), ("reserve_entity", .method []), ("spawn_empty", .method []),
      ("spawn", .method [rest "components"]), ("despawn", .method [plain "entity"]),
      ("contains_entity", .method [plain "entity"]), ("entities", .method []),
      ("entity_mut", .method [plain "entity"]),
      ("insert", .method [plain "entity", rest "components"]),
      ("get", .method [plain "entity", plain "component"]),
      ("contains", .method [plain "entity", plain "component"]),
      ("query", .method [plain "component"]), ("insert_resource", .method [plain "resource"]),
      ("resource", .method [plain "kind"]), ("resource_mut", .second "resource"),
      ("get_resource", .method [plain "kind"]), ("remove_resource", .method [plain "kind"]),
      ("run_system_once", .method [plain "system"]),
      ("run_system_once_with", .method [plain "system", plain "value"])]
  else if id = entityAccess then
    [("__init__", .method [plain "world", plain "entity"]), ("world", .property),
      ("id", .method []), ("insert", .method [rest "components"]),
      ("get", .method [plain "component"]), ("contains", .method [plain "component"]),
      ("world_scope", .method [plain "function"])]
  else if id = query then
    [("__init__", .method [plain "world", plain "component"]),
      ("get", .method [plain "entity"]), ("get_mut", .second "get"),
      ("items", .method []), ("single", .method []), ("__iter__", .method []),
      ("__len__", .method [])]
  else if id = commandQueue then
    [("__init__", .method []), ("push", .method [plain "command"]),
      ("apply", .method [plain "world"]), ("__len__", .method [])]
  else if id = commands then
    [("__init__", .method [plain "queue", plain "world"]), ("queue", .property),
      ("add", .method [plain "command"]), ("entity", .method [plain "entity"]),
      ("spawn_empty", .method []), ("spawn", .method [rest "components"]),
      ("insert_resource", .method [plain "resource"]), ("apply", .method [plain "world"])]
  else if id = entityCommands then
    [("__init__", .method [plain "commands", plain "entity"]), ("commands", .property),
      ("id", .method []), ("add", .method [plain "command"]),
      ("insert", .method [rest "components"]), ("despawn", .method [])]
  else if id = command then [("apply", .method [plain "world"])]
  else if id = entityCommand then
    [("apply", .method [plain "entity", plain "world"]), ("with_entity", .method [plain "entity"])]
  else if id = scopedCommand ∨ id = closureCommand ∨ id = insertResource ∨ id = scriptCommand then
    [("apply", .method [plain "world"])]
  else if id = insertComponents ∨ id = despawn ∨ id = scriptEntityCommand then
    [("apply", .method [plain "entity", plain "world"])]
  else if id = outcome then
    [("success_type", .other), ("failure_type", .other), ("swap", .method []),
      ("map", .method [plain "function"]), ("apply", .method [plain "container"]),
      ("bind", .method [plain "function"]), ("bind_result", .second "bind"),
      ("alt", .method [plain "function"]), ("lash", .method [plain "function"]),
      ("value_or", .method [plain "default_value"]), ("unwrap", .method []),
      ("failure", .method []), ("do", .other), ("from_value", .other), ("from_failure", .other),
      ("from_result", .other)]
  else if id = abstractMeta then
    [("register", .method [plain "subclass"]), ("__instancecheck__", .method [plain "instance"]),
      ("__subclasscheck__", .method [plain "subclass"]), ("_dump_registry", .other),
      ("_abc_registry_clear", .other), ("_abc_caches_clear", .other)]
  else if id = pattern then
    [("__init__", .method [rest "names"]), ("names", .property),
      ("__slots__", .value (.tuple [.ofText "names"] 0))]
  else if id = abstract ∨ id = generic then [("__slots__", .value (.tuple [] 0))]
  else if id = partialCall then
    [("func", .property), ("args", .property), ("keywords", .property)]
  else if id = specification ∨ id = capabilities ∨ id = options ∨ id = sourceMap then
    if id = capabilities then
      [("marker", .method [plain "name"]),
        ("command_base", .method [{ plain "entity_command" with kind := .keywordOnly }]),
        ("queued_target", .method [{ plain "entity_command" with kind := .keywordOnly }]),
        ("direct_target", .method [{ plain "entity_command" with kind := .keywordOnly }])]
    else if id = options then [("host_root_path", .property), ("routes_outcome", .property)]
    else if id = sourceMap then
      [("definition", .method [optional "segment" (.ofText "")]),
        ("for_parameter", .method [plain "name"]), ("for_option", .method [plain "key"]),
        ("for_return", .method [])]
    else []
  else if id = parameter ∨ id = field then
    [("has_default", .property)] ++
      if id = parameter then
        [("is_variadic", .property), ("is_keyword_only", .property),
          ("is_positional_only", .property)]
      else []
  else if id.isComponent then
    [("__init__", .method [plain "value"]), ("__match_args__", .value (.tuple [.ofText "value"] 0))]
  else if id = entity then
    [("__init__", .method [plain "index"]), ("__match_args__", .value (.tuple [.ofText "index"] 0))]
  else if id.isStandard then
    Standard.membersOf id.name
  else []

/-- The members of a class, its bases not counted. -/
def members (id : ClassId) : List (String × Member) := id.namedMembers ++ id.comparedMembers

/-- The members that every class has through the root of all classes. -/
def rootMembers : List String :=
  ["__class__", "__delattr__", "__dir__", "__doc__", "__eq__", "__format__", "__ge__",
    "__getattribute__", "__getstate__", "__gt__", "__hash__", "__init__", "__init_subclass__",
    "__le__", "__lt__", "__ne__", "__new__", "__reduce__", "__reduce_ex__", "__repr__",
    "__setattr__", "__sizeof__", "__str__", "__subclasshook__"]

/-- The members that a class has itself and that nothing put on it hides. -/
def fixedMembers : List String :=
  ["__abstractmethods__", "__annotations__", "__base__", "__bases__", "__basicsize__",
    "__class__", "__dict__", "__dictoffset__", "__doc__", "__flags__", "__itemsize__",
    "__module__", "__mro__", "__name__", "__qualname__", "__text_signature__",
    "__weakrefoffset__"]

/-- The members that a class has itself unless something put on it hides them. -/
def ownMembers : List String :=
  ["__call__", "__instancecheck__", "__or__", "__prepare__", "__ror__", "__subclasscheck__",
    "__subclasses__", "mro"]

/-- The members that a class has itself when its instances are meant to be implemented. -/
def abstractMembers : List String :=
  ["register", "_dump_registry", "_abc_registry_clear", "_abc_caches_clear"]

/-- The names that the annotations of a method of the host mention and that mean nothing where it is
defined. -/
def undefinedIn? (owner : ClassId) (method : String) : Option String :=
  if owner = commands then
    if ["apply", "add", "__init__"].contains method then some "World"
    else if method = "entity" then some "Entity" else Option.none
  else if owner = entityCommands then
    if ["id", "__init__"].contains method then some "Entity" else Option.none
  else if owner = entityCommand then some "Entity"
  else if [insertComponents, despawn].contains owner then some "Entity"
  else if [command, scopedCommand, closureCommand, insertResource].contains owner then some "World"
  else if owner = commandQueue then if method = "apply" then some "World" else Option.none
  else if owner = query then
    if method = "__init__" then some "World"
    else if ["get", "items"].contains method then some "Entity" else Option.none
  else Option.none

end ClassId

/-- What a name finds on a class. -/
inductive Found where
  /-- A value that was put on a class. -/
  | value (value : Value)
  /-- A member of a class from the start. -/
  | member (owner : ClassId) (name : String) (member : Member)
  deriving Inhabited

namespace Store

/-- A member of a class; another name of a method leads to the method. -/
def memberOf (owner : ClassId) (name : String) : Member → Found
  | .second first => .member owner first ((owner.members.lookup first).getD .other)
  | .value value => .value value
  | member => .member owner name member

/-- The fields of a class, if it is made of fields from the start or was made so. -/
def fieldsOfClass? (store : Store) (id : ClassId) : Option (List RecordField) :=
  match store.recordFields? id with
  | some fields => some fields
  | none =>
    if id.isComponent then some [{ name := "value", hint := "object" }]
    else if id = ClassId.entity then some [{ name := "index", hint := "int" }]
    else if id.isFrozen then some []
    else none

/-- The fields of a class, or those of the nearest class above it that is made of fields. -/
def fieldsAbove? (store : Store) (id : ClassId) : Option (List RecordField) :=
  (store.ancestors id).findSome? store.fieldsOfClass?

/-- What a class and its instances have by the class being made of fields. -/
def fieldMember? (store : Store) (id : ClassId) (name : String) : Option Found :=
  (store.recordFields? id).bind fun _ =>
    if name = "__hash__" then some (.value .absent)
    else if ["__init__", "__eq__", "__repr__"].contains name then some (.member id name .other)
    else none

/-- What a name finds on a class itself. -/
def ownFound? (store : Store) (id : ClassId) (name : String) : Option Found :=
  match store.classAttribute? id name with
  | some value => some (.value value)
  | none =>
    if store.removed.contains (id, name) then none
    else
      match store.fieldMember? id name with
      | some found => some found
      | none => (id.members.lookup name).map (memberOf id name)

/-- The class that lets an instance be referred to without being kept: the first one, from the root
down, that does not fix the attributes of its instances. -/
def referable? (store : Store) (id : ClassId) : Option ClassId :=
  let fixed := [ClassId.abstract, ClassId.generic, ClassId.pattern, ClassId.outcome,
    ClassId.success, ClassId.failure]
  (store.ancestors id).reverse.find? fun parent =>
    !parent.isStandard && !fixed.contains parent && parent.home ≠ "typing"

/-- What a name finds on a class, on what it inherits, or on what every class has. -/
def find (store : Store) (id : ClassId) (name : String) : Option Found :=
  match (store.ancestors id).findSome? (store.ownFound? · name) with
  | some found => some found
  | none =>
    if name = "__weakref__" then
      (store.referable? id).map fun owner => .member owner name .property
    else if ClassId.rootMembers.contains name then some (.member ClassId.object name .other) else none

end Store

end Deferred
