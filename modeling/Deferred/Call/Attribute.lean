import Deferred.Call.Arguments
import Deferred.Store.Attribute
import Deferred.Store.Compare

/-!
# Reading and setting attributes

Reading an attribute can have effects: some attributes are made when they are asked for, a method is
bound anew each time, and a class can have a function that answers for attributes that are not
there.  Which attributes can be set depends on the kind of value.
-/

namespace Deferred.Action

/-- A new list. -/
def newList (items : List Value) : Action Value := allocate ClassId.list (.list items)

/-- A new table. -/
def newDict (entries : List (Value × Value)) : Action Value := allocate ClassId.dict (.dict entries)

/-- Names with what they stand for as a new table. -/
def newTable (entries : Bindings) : Action Value :=
  newDict (entries.map fun (name, value) => (.ofText name, value))

/-- A view of a table that does not change it. -/
def newView (entries : List (Value × Value)) : Action Value :=
  allocate ClassId.mappingView (.dict entries)

/-- Components under their classes as a new table. -/
def componentDict (entries : List (ClassId × Value)) : Action Value :=
  newDict (entries.map fun (id, value) => (.ofClass id, value))

/-- The components of each entity as new tables. -/
def rowDicts : List Row → Action (List (Value × Value))
  | [] => return []
  | row :: rest => do
    let components ← componentDict row.components
    return (row.handle.toValue, components) :: (← rowDicts rest)

/-- The implementations of a function that chooses by the class of its first argument. -/
def registry (implementations : List (ClassId × Value)) (otherwise : Value) : Action Value :=
  newView ((.ofClass ClassId.object, otherwise) ::
    implementations.map fun (id, function) => (.ofClass id, function))

/-- What a class made of fields tells of its fields, each under its name. -/
def fieldTable (fields : List RecordField) : Action Value := do newTable (← each fields)
where
  each : List RecordField → Action Bindings
    | [] => return []
    | field :: rest => do
      let told ← allocate (.declared "dataclasses" "Field") .plain
        [("name", .ofText field.name), ("type", .ofText field.hint),
          ("kw_only", .bool field.keywordOnly), ("init", .bool true), ("repr", .bool true)]
      return (field.name, told) :: (← each rest)

/-- How a class was made of fields. -/
def fieldParameters (id : ClassId) : Action Value :=
  allocate (.declared "dataclasses" "_DataclassParams") .plain
    ([("init", true), ("repr", true), ("eq", true), ("order", id = ClassId.entity),
      ("unsafe_hash", false), ("frozen", id.isFrozen)].map fun (name, value) =>
        (name, .bool value))

/-- An attribute that a class made of fields has for being one. -/
def fieldAttribute? (store : Store) (id : ClassId) (name : String) : Option (Action Value) :=
  if name = "__dataclass_fields__" then (store.fieldsAbove? id).map fieldTable
  else if name = "__dataclass_params__" then
    (store.fieldsAbove? id).map fun _ => fieldParameters id
  else none

/-- The annotations of a class that was there from the start; those of the component classes are
classes, all others are the text of their types. -/
def hostAnnotations (store : Store) (id : ClassId) : Bindings :=
  if id.isGenerated then []
  else ((store.fieldsOfClass? id).getD []).map fun field =>
    (field.name, if id.isComponent then .cls ClassId.object else .ofText field.hint)

/-- An attribute of a class that is made when it is asked for. -/
def lateClassAttribute? (store : Store) (id : ClassId) (name : String) : Option (Action Value) :=
  match name with
  | "__dict__" => some (newView (((Entries.get? store.attributes id).getD []).map
      fun (name, value) => (.ofText name, value)))
  | "__annotations__" =>
    if (store.classAttribute? id name).isSome ∨ id.isStandard then none
    else some (newTable (hostAnnotations store id))
  | "__abstractmethods__" =>
    if (store.classAttribute? id name).isNone && id.maker = .abstract then
      some (allocate ClassId.frozenSet (.set {}))
    else none
  | name => fieldAttribute? store id name

/-- What is told of the code of a function. -/
def codeParts (function : FunctionObject) : Bindings :=
  let ofKind (kind : ParameterKind) : List String :=
    (function.parameters.filter (·.kind = kind)).map CallParameter.name
  let onlyByPlace := ofKind .positionalOnly
  let byPlace := onlyByPlace ++ ofKind .positional
  let byName := ofKind .keywordOnly
  let names := byPlace ++ byName ++ ofKind .variadic ++ ofKind .keywordVariadic
  let flag (isSet : Bool) (value : Nat) : Nat := if isSet then value else 0
  let isSuspended := match function.body with
    | .suspended => true
    | _ => false
  let number (value : Nat) : Value := .ofInt value
  [("co_name", .ofText function.codeName), ("co_qualname", .ofText function.codePath),
    ("co_filename", .ofText function.file), ("co_firstlineno", number function.line),
    ("co_argcount", number byPlace.length), ("co_kwonlyargcount", number byName.length),
    ("co_posonlyargcount", number onlyByPlace.length), ("co_nlocals", number names.length),
    ("co_varnames", .tuple (names.map .ofText) 0), ("co_freevars", .tuple [] 0),
    ("co_cellvars", .tuple [] 0),
    ("co_flags", number (3 + flag (!(ofKind .variadic).isEmpty) 4 +
      flag (!(ofKind .keywordVariadic).isEmpty) 8 + flag isSuspended 128))]

/-- The attributes of an object, those that its class keeps as parts left out. -/
def looseAttributes (store : Store) (value : Value) : Bindings :=
  (store.attributesOf value).filter fun (name, _) =>
    match store.find value.classId name with
    | some (.member owner _ .property) => !owner.isStandard
    | _ => true

/-- An attribute of an object that is made when it is asked for. -/
def lateObjectAttribute? (store : Store) (value : Value) (object : Object) (name : String) :
    Option (Action Value) :=
  match object, name with
  | .world world, "_resources" => some (componentDict world.resources)
  | .world world, "_entities" => some do newDict (← rowDicts world.rows)
  | .queue pending, "_commands" =>
    some (allocate (.declared "collections" "deque") (.list pending))
  | .function function, "__kwdefaults__" =>
    match CallParameter.keywordDefaults function.parameters with
    | [] => none
    | defaults => some (newTable defaults)
  | .function function, "__code__" =>
    some (allocate (.declared "builtins" "code") .plain (codeParts function))
  | .function function, "__globals__" =>
    let home := (function.home.asText?).getD ""
    some (newTable ((store.modules.made.lookup home).getD []))
  | .function function, "registry" =>
    match function.body with
    | .dispatch implementations otherwise => some (registry implementations otherwise)
    | _ => none
  | .function function, name =>
    match function.body with
    | .dispatch _ _ =>
      if name = "register" ∨ name = "dispatch" then
        some (fresh (.bound value (.builtin name)))
      else if name = "__dict__" then some (newTable (store.attributesOf value))
      else none
    | _ => if name = "__dict__" then some (newTable (store.attributesOf value)) else none
  | .partialCall _ _ keywords, "keywords" => some (newTable keywords)
  | .view _ table, "mapping" =>
    some do newView (((← Action.store).entriesOf? table).getD [])
  | .list _, _ => none
  | .dict _, _ => none
  | .set _, _ => none
  | .view _ _, _ => none
  | .octets _, _ => none
  | .iteration _, _ => none
  | .plain, "__dict__" =>
    if value.classId.isStandard && !wrapperClasses.contains value.classId then none
    else some (newTable (looseAttributes store value))
  | _, "__dict__" => some (newTable (looseAttributes store value))
  | _, _ => none
where
  wrapperClasses : List ClassId := [ClassId.staticMethodWrapper, ClassId.classMethodWrapper]

/-- An attribute that is made when it is asked for, unless it was set. -/
def lateAttribute? (store : Store) (value : Value) (name : String) : Option (Action Value) :=
  match value with
  | .cls id => lateClassAttribute? store id name
  | .module module =>
    let names := (store.modules.made.lookup module).getD (Host.installedExports module)
    if name = "__dict__" then some (newTable names)
    else if name = "__annotations__" ∧ (Entries.get? names name).isNone then some (newDict [])
    else none
  | .entity index _ =>
    if name = "__dict__" then some (newTable [("index", index)])
    else if name = "__annotations__" then
      some (newTable (hostAnnotations store ClassId.entity))
    else fieldAttribute? store ClassId.entity name
  | .object id _ =>
    if (store.ownAttribute? value name).isSome then none
    else if name = "__annotations__" ∧ id.isComponent ∧ (store.classAttribute? id name).isNone then
      some (newTable (hostAnnotations store id))
    else
      match fieldAttribute? store id name with
      | some late => some late
      | none =>
        (store.objectOf? value).bind fun object => lateObjectAttribute? store value object name
  | _ => none

/-- A special method that was put on the class of a value, or on one above it. -/
def special? (store : Store) (value : Value) (name : String) : Option Value :=
  if value.classId.isStandard then none
  else match store.find value.classId name with
    | some (.value found) => some found
    | _ => none

/-- Call what was found on the class of a value for the value. -/
def callFound (call : Caller) (value found : Value) (arguments : List Value) : Action Value := do
  let store ← store
  if store.isFunction found then call found (.ofList (value :: arguments))
  else call found (.ofList arguments)

/-- Call a special method that was put on the class of a value, if there is one. -/
def callSpecial? (call : Caller) (value : Value) (name : String) (arguments : List Value) :
    Action (Option Value) := do
  let store ← store
  match special? store value name with
  | some found => return some (← callFound call value found arguments)
  | none => return none

/-- What is found under a name.  A method that a class has is bound anew each time; a method that
was bound before, and whatever a value keeps itself, stays what it is. -/
def renewed (store : Store) (value : Value) (name : String) : Value → Action Value
  | .bound receiver function mark =>
    if mark = 0 && (store.ownAttribute? value name).isNone then fresh (.bound receiver function)
    else done (.bound receiver function mark)
  | found => done found

/-- An attribute of a value that its class has no say in. -/
def plainAttribute? (call : Caller) (value : Value) (name : String) : Action (Option Value) := do
  let store ← store
  match lateAttribute? store value name with
  | some late => return some (← late)
  | none =>
    match store.attribute? value name with
    | some found => return some (← renewed store value name found)
    | none => callSpecial? call value "__getattr__" [.ofText name]

/-- An attribute of a value, if it has it. -/
def attribute? (call : Caller) (value : Value) (name : String) : Action (Option Value) := do
  match ← callSpecial? call value "__getattribute__" [.ofText name] with
  | some found => return some found
  | none => plainAttribute? call value name

/-- An attribute of a value. -/
def getAttribute (call : Caller) (value : Value) (name : String) : Action Value := do
  orFail (.noAttribute name) (← attribute? call value name)

/-- Does a fault say that an attribute is missing? -/
def isMissing : Fault → Bool
  | .noAttribute _ => true
  | .frozen _ => true
  | .kept _ => true
  | .immutableOutcome => true
  | fault => fault.kind = "AttributeError"

/-- Does a value have an attribute? -/
def hasAttribute (call : Caller) (value : Value) (name : String) : Action Bool := do
  match ← attempt (getAttribute call value name) with
  | .ok _ => return true
  | .error fault => if isMissing fault then return false else fail fault

/-! ## Setting -/

/-- Attributes of a class that can only be read. -/
def readOnlyAttributes : List String :=
  ["__base__", "__basicsize__", "__dict__", "__dictoffset__", "__flags__", "__itemsize__",
    "__mro__", "__text_signature__", "__weakrefoffset__"]

/-- Set an attribute of a class. -/
def setClassAttribute (id : ClassId) (name : String) (content : Value) : Action Unit :=
  let given := content.classId.name
  if id.home = "builtins" then
    fail (.mismatch ("cannot set " ++ Text.quote name ++ " attribute of immutable type " ++
      Text.quote id.name))
  else if readOnlyAttributes.contains name then fail (.noAttribute name)
  else if name = "__class__" then
    if content.asClass?.isSome then fail (.mismatch "__class__ assignment only supported")
    else fail (.mismatch ("__class__ must be set to a class, not " ++ Text.quote given ++
      " object"))
  else if name = "__bases__" then
    match content with
    | .tuple _ _ => perform (.setClassAttribute id name content)
    | _ => fail (.mismatch ("can only assign tuple to " ++ id.name ++ ".__bases__, not " ++ given))
  else if name = "__name__" ∨ name = "__qualname__" then
    match content with
    | .text _ _ => perform (.setClassAttribute id name content)
    | _ => fail (.mismatch ("can only assign string to " ++ id.name ++ "." ++ name ++ ", not " ++
        Text.quote given))
  else perform (.setClassAttribute id name content)

/-- Set an attribute of a function. -/
def setFunctionAttribute (value : Value) (place : Ref) (function : FunctionObject)
    (name : String) (content : Value) : Action Unit := do
  let store ← store
  let write (changed : FunctionObject) : Action Unit := perform (.setFunction place changed)
  let wrong : Action Unit := fail (.mismatch (name ++ " cannot be set to that"))
  match name, content with
  | "__name__", .text name _ => write { function with name }
  | "__name__", _ => wrong
  | "__qualname__", .text qualname _ => write { function with qualname }
  | "__qualname__", _ => wrong
  | "__doc__", doc => write { function with doc }
  | "__module__", home => write { function with home }
  | "__defaults__", .absent =>
    write { function with parameters := CallParameter.withDefaults [] function.parameters }
  | "__defaults__", .tuple values _ =>
    write { function with parameters := CallParameter.withDefaults values function.parameters }
  | "__defaults__", _ => wrong
  | "__kwdefaults__", .absent =>
    write { function with parameters := CallParameter.withKeywordDefaults [] function.parameters }
  | "__kwdefaults__", table =>
    match store.objectOf? table with
    | some (.dict entries) =>
      let named := entries.filterMap fun (key, value) => key.asText?.map (·, value)
      write { function with
        parameters := CallParameter.withKeywordDefaults named function.parameters }
    | _ => wrong
  | "__annotations__", .absent => do
    let table ← newDict []
    write { function with annotations := table }
  | "__annotations__", table =>
    match store.objectOf? table with
    | some (.dict _) => write { function with annotations := table }
    | _ => wrong
  | _, _ =>
    if ["__code__", "__class__", "__dict__"].contains name then wrong
    else if ["__globals__", "__closure__", "__builtins__"].contains name then
      fail (.noAttribute name)
    else
      match value with
      | .object _ place => perform (.setAttribute place name content)
      | _ => fail (.noAttribute name)

/-- The fault of an attribute that cannot be set or removed: the class of a value is one of those
that are always there, and of the wrong kind. -/
def cannotChange (name : String) : Fault :=
  if name = "__class__" then .mismatch "__class__ assignment only supported" else .noAttribute name

/-- Set an attribute of a value. -/
def setAttribute (value : Value) (name : String) (content : Value) : Action Unit := do
  let store ← store
  match value with
  | .cls id => setClassAttribute id name content
  | .module module => perform (.setGlobal module name content)
  | .entity _ _ => fail (.frozen name)
  | .success _ _ => fail .immutableOutcome
  | .failure _ _ => fail .immutableOutcome
  | .object id place =>
    if id.isFrozen then fail (.frozen name)
    else
      match store.object? place, store.find id name with
      | some (.function function), _ => setFunctionAttribute value place function name content
      | some (.exception _), some (.member _ _ .property) =>
        perform (.setAttribute place name content)
      | some _, some (.member _ _ .property) => fail (.noAttribute name)
      | some _, _ =>
        if id.isStandard && !(store.isSubclass id ClassId.baseException) then
          fail (cannotChange name)
        else if name = "__class__" ∨ name = "__dict__" then
          match store.find id name with
          | some (.value _) => perform (.setAttribute place name content)
          | _ => fail (.mismatch (name ++ " cannot be set to that"))
        else perform (.setAttribute place name content)
      | none, _ => fail (cannotChange name)
  | _ => fail (cannotChange name)

/-- Set an attribute of a value the way its class wants it. -/
def assignAttribute (call : Caller) (value : Value) (name : String) (content : Value) :
    Action Unit := do
  match ← callSpecial? call value "__setattr__" [.ofText name, content] with
  | some _ => done ()
  | none => setAttribute value name content

/-- Attributes of a class that can be set and not removed. -/
def lastingAttributes : List String :=
  ["__name__", "__qualname__", "__module__", "__doc__", "__bases__", "__class__"]

/-- Parts of an exception that can be set and not removed. -/
def lastingParts : List String :=
  ["args", "__cause__", "__context__", "__traceback__", "__suppress_context__", "start", "end"]

/-- Remove an attribute of a value. -/
def removeAttribute (value : Value) (name : String) : Action Unit := do
  let store ← store
  match value with
  | .cls id =>
    if id.home = "builtins" then fail (.misuse .immutableType)
    else if lastingAttributes.contains name then fail (.mismatch (name ++ " cannot be deleted"))
    else if (store.ownFound? id name).isSome then perform (.removeClassAttribute id name)
    else fail (.noAttribute name)
  | .entity _ _ => fail (.kept name)
  | .success _ _ => fail .immutableOutcome
  | .failure _ _ => fail .immutableOutcome
  | .object id place =>
    if id.isFrozen then fail (.kept name)
    else
      match store.object? place, store.find id name with
      | some (.exception _), some (.member _ _ .property) =>
        if lastingParts.contains name then fail (.mismatch (name ++ " may not be deleted"))
        else perform (.removeAttribute place name)
      | _, _ =>
        if (store.ownAttribute? value name).isSome then perform (.removeAttribute place name)
        else fail (cannotChange name)
  | _ => fail (cannotChange name)

/-- Call a method of a value. -/
def send (call : Caller) (value : Value) (name : String) (arguments : Arguments) :
    Action Value := do
  call (← getAttribute call value name) arguments

end Deferred.Action
