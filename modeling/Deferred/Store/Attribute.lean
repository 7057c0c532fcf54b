import Deferred.Class.Doc
import Deferred.Store.Compare
import Deferred.Store.Members

/-!
# Attributes

An attribute of a value is looked for in three places: the properties of its class, then the
attributes of the value itself, then everything else that its class and the classes above it have.
A function found on a class is bound to the value.  A class looks among its own properties, then
on itself and the classes above it, then among what all classes have.
-/

namespace Deferred.Store

/-- The parts of a value without a place in the store, and of the objects with parts of their
own. -/
def partOf? (store : Store) (value : Value) (name : String) : Option Value :=
  match value with
  | .entity index _ => if name = "index" then some index else none
  | .success inner _ => if name = "_inner_value" then some inner else none
  | .failure inner _ => if name = "_inner_value" then some inner else none
  | .builtin function =>
    match name with
    | "__name__" => some (.ofText function)
    | "__qualname__" => some (.ofText function)
    | "__module__" => some (.ofText "builtins")
    | "__self__" => some (.module "builtins")
    | _ => none
  | .hostMethod owner method =>
    match name with
    | "__name__" => some (.ofText method)
    | "__qualname__" => some (.ofText (owner.name ++ "." ++ method))
    | "__doc__" =>
      if owner.isStandard then none
      else some (((owner.methodWords.lookup method).map Value.ofText).getD .absent)
    | "__module__" => if owner.isStandard then none else some (.ofText owner.home)
    | "__objclass__" => if owner.isStandard then some (.ofClass owner) else none
    | _ => none
  | .special form =>
    match name with
    | "__name__" => some (.ofText form)
    | "__qualname__" => some (.ofText form)
    | "_name" => some (.ofText form)
    | _ => none
  | .typeVariable letter =>
    match name with
    | "__name__" => some (.ofText letter)
    | "__bound__" => some .absent
    | "__constraints__" => some (.tuple [] 0)
    | "__covariant__" => some (.bool false)
    | "__contravariant__" => some (.bool false)
    | _ => none
  | .forward text => if name = "__forward_arg__" then some (.ofText text) else none
  | .object _ _ =>
    match store.objectOf? value with
    | some (.function function) =>
      match name with
      | "__name__" => some (.ofText function.name)
      | "__qualname__" => some (.ofText function.qualname)
      | "__module__" => some function.home
      | "__doc__" => some function.doc
      | "__annotations__" => some function.annotations
      | "__closure__" => some .absent
      | "__defaults__" =>
        match CallParameter.defaults function.parameters with
        | [] => some .absent
        | defaults => some (.tuple defaults 0)
      | "__kwdefaults__" =>
        if (CallParameter.keywordDefaults function.parameters).isEmpty then some .absent else none
      | _ => none
    | some (.world world) => if name = "_next_index" then some (.ofInt world.nextIndex) else none
    | _ => none
  | _ => none

/-- A part of a number. -/
def numberPart? (value : Value) (name : String) : Option Value :=
  match Number.ofValue? value, name with
  | some (.whole number), "real" => some (.int number 0)
  | some (.whole number), "numerator" => some (.int number 0)
  | some (.whole _), "imag" => some (.ofInt 0)
  | some (.whole _), "denominator" => some (.ofInt 1)
  | some (.float number), "real" => some (.float number 0)
  | some (.float _), "imag" => some (.float 0.0 0)
  | some (.complex real _), "real" => some (.float real 0)
  | some (.complex _ imaginary), "imag" => some (.float imaginary 0)
  | _, _ => none

/-- A part of an exception: what it was set to, else what follows from how it was made. -/
def exceptionPart? (store : Store) (value : Value) (arguments : List Value) (name : String) :
    Option Value :=
  match store.ownAttribute? value name with
  | some found => some found
  | none =>
    if name = "args" then some (.tuple arguments 0)
    else if name = "characters_written" then none
    else if name = "__suppress_context__" then some (.bool false)
    else some .absent

/-- A part of a plain value, of an exception, or of a call that waits for more arguments. -/
def standardPart? (store : Store) (value : Value) (name : String) : Option Value :=
  match store.plainOf value, name with
  | .pattern names _, _ => some (.tuple names 0)
  | .range start _ _ _, "start" => some (.int start 0)
  | .range _ stop _ _, "stop" => some (.int stop 0)
  | .range _ _ step _, "step" => some (.int step 0)
  | .slice start _ _ _, "start" => some start
  | .slice _ stop _ _, "stop" => some stop
  | .slice _ _ step _, "step" => some step
  | plain, name =>
    match store.objectOf? plain with
    | some (.partialCall function positional _) =>
      if name = "func" then some function
      else if name = "args" then some (.tuple positional 0)
      else none
    | some (.exception arguments) => store.exceptionPart? value arguments name
    | some .plain =>
      if name = "__isabstractmethod__" then some (.bool false) else store.ownAttribute? value name
    | _ => numberPart? plain name

/-- The value of a property. -/
def property? (store : Store) (value : Value) (owner : ClassId) (name : String) : Option Value :=
  if name = "__weakref__" then some .absent
  else if owner = ClassId.commands then store.ownAttribute? value "_queue"
  else if owner = ClassId.entityCommands then store.ownAttribute? value "_commands"
  else if owner = ClassId.entityAccess then store.ownAttribute? value "_world"
  else if owner = ClassId.options then
    let holds (key : String) : Bool := match store.ownAttribute? value key with
      | none => false
      | some .absent => false
      | some _ => true
    if name = "routes_outcome" then some (.bool (holds "ok_handler" || holds "err_handler"))
    else match store.ownAttribute? value "host_root" with
      | some (.module found) => some (.ofText found)
      | root => root
  else if owner = ClassId.parameter ∨ owner = ClassId.field then
    let kind := ((store.ownAttribute? value "kind").bind fun kind =>
      store.ownAttribute? kind "name").getD .absent
    let isKind (names : List String) : Value :=
      .bool (match kind with
        | .text kind _ => names.contains kind
        | _ => false)
    if name = "has_default" then
      some (.bool (match store.ownAttribute? value "default" with
        | some (.cls id) => id.name ≠ "_empty"
        | _ => true))
    else if name = "is_variadic" then some (isKind ["VAR_POSITIONAL", "VAR_KEYWORD"])
    else if name = "is_keyword_only" then some (isKind ["KEYWORD_ONLY"])
    else some (isKind ["POSITIONAL_ONLY"])
  else store.standardPart? value name

/-- Is this a function that is bound to the object it is found on? -/
def isFunction (store : Store) (value : Value) : Bool :=
  match value with
  | .hostMethod _ _ => true
  | value => (store.functionOf? value).isSome

/-- A member of a class that is bound to the class itself, or to the class that defines it. -/
def classBound? (id owner : ClassId) (name : String) : Option Value :=
  if !owner.belongsToClass name then none
  else if name = "__new__" then some (.bound (.cls owner) (.hostMethod owner name) 0)
  else some (.bound (.cls id) (.hostMethod owner name) 0)

/-- A member of a class, seen from one of its instances. -/
def bindFound (store : Store) (receiver : Value) : Found → Value
  | .value value => if store.isFunction value then .bound receiver value 0 else value
  | .member owner name _ =>
    (classBound? receiver.classId owner name).getD (.bound receiver (.hostMethod owner name) 0)

/-- The words that explain a class that was not put into words by its body. -/
def classDoc (id : ClassId) : Value :=
  match id.words? with
  | some words => .ofText words
  | none =>
    if id.isGenerated then .absent
    else if ["game", "other", "__main__"].contains id.home then .absent
    else .ofText ""

/-- The properties of a class that tell of its layout. -/
def sizeAttributes : List String :=
  ["__basicsize__", "__dictoffset__", "__flags__", "__itemsize__", "__weakrefoffset__"]

/-- The properties that a class has itself. -/
def fixedAttribute? (store : Store) (id : ClassId) (name : String) : Option Value :=
  match name with
  | "__name__" => some (.ofText (store.className id))
  | "__qualname__" => some (.ofText (store.classQualname id))
  | "__module__" => some ((store.classAttribute? id name).getD (.ofText id.home))
  | "__doc__" => some ((store.classAttribute? id name).getD (classDoc id))
  | "__class__" => some (.ofClass (Value.metaclass id))
  | "__bases__" => some (.tuple ((store.bases id).map .ofClass) 0)
  | "__base__" => some (((store.bases id).head?.map .ofClass).getD .absent)
  | "__mro__" => some (.tuple ((store.ancestors id).map .ofClass) 0)
  | "__text_signature__" => some .absent
  | "__annotations__" => store.classAttribute? id name
  | "__abstractmethods__" => store.classAttribute? id name
  | _ =>
    if sizeAttributes.contains name then some (.ofInt 0) else none

/-- What a class has of itself unless something put on it hides it. -/
def ownMember? (id : ClassId) (name : String) : Option Value :=
  if name = "__prepare__" then
    some (.bound (.ofClass (Value.metaclass id)) (.hostMethod ClassId.type name) 0)
  else if Value.metaclass id = ClassId.abstractMeta &&
      ["__instancecheck__", "__subclasscheck__"].contains name then
    some (.bound (.ofClass id) (.hostMethod ClassId.abstractMeta name) 0)
  else if ClassId.ownMembers.contains name then
    some (.bound (.ofClass id) (.hostMethod ClassId.type name) 0)
  else if Value.metaclass id = ClassId.abstractMeta && ClassId.abstractMembers.contains name then
    some (.bound (.ofClass id) (.hostMethod ClassId.abstractMeta name) 0)
  else none

/-- The type variables that a generic class can be applied to. -/
def typeVariablesOf? (store : Store) (id : ClassId) : Option (List Value) :=
  if id.arity? = some 1 then some [.typeVariable "T"]
  else if (store.ancestors id).contains ClassId.generic then
    (Entries.get? store.generated id).map GeneratedClass.typeVariables
  else none

/-- What a class has for being generic. -/
def genericAttribute? (store : Store) (id : ClassId) (name : String) : Option Value :=
  match store.typeVariablesOf? id, name with
  | some found, "__parameters__" => some (.tuple found 0)
  | some found, "__orig_bases__" =>
    some (.tuple ((store.bases id).map fun base =>
      if base = ClassId.generic then .applied base found 0 else .cls base) 0)
  | _, _ => none

/-- An attribute of a class taken as a value. -/
def typeAttribute? (store : Store) (id : ClassId) (name : String) : Option Value :=
  match store.fixedAttribute? id name with
  | some value => some value
  | none =>
    match store.find id name with
    | some (.value value) => some value
    | some (.member owner name _) =>
      some ((classBound? id owner name).getD (.hostMethod owner name))
    | none =>
      if id = ClassId.type ∧ ClassId.abstractMembers.contains name then none
      else (store.genericAttribute? id name).or (ownMember? id name)

/-- An attribute that a value has through its class. -/
def inherited? (store : Store) (value : Value) (name : String) : Option Value :=
  match name with
  | "__doc__" => store.typeAttribute? value.classId name
  | "__module__" =>
    if value.classId.isStandard then none else store.typeAttribute? value.classId name
  | _ => (store.find value.classId name).map (store.bindFound value)

/-- An attribute of a value that stands for no type. -/
def instanceAttribute? (store : Store) (value : Value) (name : String) : Option Value :=
  match store.find value.classId name with
  | some (.member owner _ .property) => store.property? value owner name
  | some (.member _ "__class__" _) => some (.ofClass value.classId)
  | _ =>
    match store.ownAttribute? value name with
    | some found => some found
    | none =>
      match store.partOf? value name with
      | some found => some found
      | none => store.inherited? value name

/-- An attribute of a generic type with arguments; the rest is that of the type it applies. -/
def aliasAttribute? (store : Store) (value : Value) (name : String) : Option Value :=
  let origin := value.origin
  match name with
  | "__origin__" => some (match value with
    | .annotated inner _ => inner
    | _ => origin)
  | "__args__" => some (.tuple (match value with
    | .annotated inner _ => [inner]
    | _ => value.arguments) 0)
  | "__parameters__" => some (.tuple ((value.collectVariables []).map .typeVariable) 0)
  | "__metadata__" => match value with
    | .annotated _ notes => some (.tuple notes 0)
    | _ => none
  | "__class__" => some (.ofClass value.classId)
  | "__name__" => match value with
    | .applied id _ _ => some (.ofText id.name)
    | .optional _ => some (.ofText "Optional")
    | .classVar _ => some (.ofText "ClassVar")
    | _ => some (.ofText "Annotated")
  | _ =>
    let inner := match value with
      | .annotated inner _ => inner
      | _ => origin
    let forwards := match value with
      | .applied id _ _ => id.isBuiltinGeneric || !("__".toList.isPrefixOf name.toList)
      | _ => !("__".toList.isPrefixOf name.toList)
    if forwards then inner.asClass?.bind fun id => store.typeAttribute? id name else none

/-- The dotted name of a method that is always there and bound to a receiver: the receiver tells
the class. -/
def boundName (store : Store) (receiver function : Value) : String :=
  let owner := receiver.asClass?.getD receiver.classId
  match function with
  | .hostMethod _ name => store.classQualname owner ++ "." ++ name
  | .builtin name => name
  | _ => store.classQualname owner

/-- An attribute of a value. -/
def attribute? (store : Store) (value : Value) (name : String) : Option Value :=
  match value with
  | .cls id => store.typeAttribute? id name
  | .module module =>
    match Entries.get? ((store.modules.made.lookup module).getD (Host.installedExports module))
      name with
    | some found => some found
    | none =>
      if name = "__name__" then some (.ofText module) else store.instanceAttribute? value name
  | .applied _ _ _ => store.aliasAttribute? value name
  | .optional _ => store.aliasAttribute? value name
  | .classVar _ => store.aliasAttribute? value name
  | .annotated _ _ => store.aliasAttribute? value name
  | .bound receiver function _ =>
    let isMethod := value.classId = ClassId.method
    match name with
    | "__self__" => some receiver
    | "__class__" => some (.ofClass value.classId)
    | "__func__" => if isMethod then some function else none
    | "__qualname__" =>
      if value.classId = ClassId.builtin then some (.ofText (store.boundName receiver function))
      else attribute? store function name
    | "__module__" =>
      if value.classId = ClassId.builtin then some .absent else attribute? store function name
    | "__objclass__" =>
      if value.classId = ClassId.boundSlot then attribute? store function name else none
    | "__name__" => attribute? store function name
    | "__doc__" => attribute? store function name
    | _ =>
      if isMethod && (store.find ClassId.method name).isNone then attribute? store function name
      else store.instanceAttribute? value name
  | value => store.instanceAttribute? value name

/-- The name that a value goes by, as a message about it gives it. -/
def nameOf? (store : Store) (value : Value) : Option String :=
  match store.attribute? value "__name__" with
  | some (.text name _) => some name
  | _ => none

end Deferred.Store
