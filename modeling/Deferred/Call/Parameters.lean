import Deferred.Call.Iterate

/-!
# What a value takes when it is called

The parameters of everything that can be called: functions, methods, classes and partial calls.  A
function that stands in for another takes what the other takes.
-/

namespace Deferred

open CallParameter

/-- What stands for a default that is made anew for each instance. -/
def RecordField.made : Value := .builtin "<factory>"

/-- The fields of a record class as the parameters of its constructor: those given by position
come first. -/
def RecordField.parameters (fields : List RecordField) : List CallParameter :=
  let ofKind (kind : ParameterKind) (fields : List RecordField) : List CallParameter :=
    fields.map fun field =>
      { name := field.name, kind
        default := field.default.or (field.factory.map fun _ => RecordField.made) }
  ofKind .positional (fields.filter (!·.keywordOnly)) ++
    ofKind .keywordOnly (fields.filter (·.keywordOnly))

namespace Store

/-- Can a value be called? -/
def isCallable (store : Store) (value : Value) : Bool :=
  value.isCallable ||
    match value with
    | .object id _ => !id.isStandard && (store.find id "__call__").isSome
    | _ => false

/-- The parameters of the constructor of a class that is always there, for the classes that tell. -/
def standardConstructor? (name : String) : Option (List CallParameter) :=
  match name with
  | "object" => some []
  | "list" => some [unnamedOptional "iterable" (.tuple [] 0)]
  | "tuple" => some [unnamedOptional "iterable" (.tuple [] 0)]
  | "float" => some [unnamedOptional "x" (.ofInt 0)]
  | "complex" => some [optional "real" (.ofInt 0), optional "imag" (.ofInt 0)]
  | "enumerate" => some [plain "iterable", optional "start" (.ofInt 0)]
  | "memoryview" => some [plain "object"]
  | "property" =>
    some [optional "fget" .absent, optional "fset" .absent, optional "fdel" .absent,
      optional "doc" .absent]
  | "reversed" => some [unnamed "sequence"]
  | _ => none

/-- The parameters of the constructors that the host and its outcomes have. -/
def hostConstructor (store : Store) (id : ClassId) : List CallParameter :=
  let below (parent : ClassId) : Bool := (store.ancestors id).contains parent
  if below ClassId.any ∨ id = ClassId.annotated then
    [rest "args", { name := "kwargs", kind := .keywordVariadic, default := none }]
  else if id = ClassId.scopedCommand then [plain "command", plain "entity"]
  else if id = ClassId.closureCommand then [plain "function"]
  else if id = ClassId.insertResource then [plain "resource"]
  else if id = ClassId.insertComponents then [plain "components"]
  else if below ClassId.outcome then [plain "inner_value"]
  else if id = ClassId.scriptCommand ∨ id = ClassId.scriptEntityCommand then [plain "function"]
  else []

/-- The parameters of a function that is always there. -/
def builtinParameters? (name : String) : Option (List CallParameter) :=
  match name with
  | "__import__" =>
    some [plain "name", optional "globals" .absent, optional "locals" .absent,
      optional "fromlist" (.tuple [] 0), optional "level" (.ofInt 0)]
  | "abs" => some [unnamed "x"]
  | "aiter" => some [unnamed "async_iterable"]
  | "all" => some [unnamed "iterable"]
  | "any" => some [unnamed "iterable"]
  | "ascii" => some [unnamed "obj"]
  | "bin" => some [unnamed "number"]
  | "callable" => some [unnamed "obj"]
  | "chr" => some [unnamed "i"]
  | "compile" =>
    some [plain "source", plain "filename", plain "mode", optional "flags" (.ofInt 0),
      optional "dont_inherit" (.bool false), optional "optimize" (.ofInt (-1)),
      named "_feature_version" (.ofInt (-1))]
  | "delattr" => some [unnamed "obj", unnamed "name"]
  | "divmod" => some [unnamed "x", unnamed "y"]
  | "eval" =>
    some [unnamed "source", unnamedOptional "globals" .absent, unnamedOptional "locals" .absent]
  | "exec" =>
    some [unnamed "source", unnamedOptional "globals" .absent, unnamedOptional "locals" .absent,
      named "closure" .absent]
  | "format" => some [unnamed "value", unnamedOptional "format_spec" (.ofText "")]
  | "globals" => some []
  | "hasattr" => some [unnamed "obj", unnamed "name"]
  | "hash" => some [unnamed "obj"]
  | "hex" => some [unnamed "number"]
  | "id" => some [unnamed "obj"]
  | "input" => some [unnamedOptional "prompt" (.ofText "")]
  | "isinstance" => some [unnamed "obj", unnamed "class_or_tuple"]
  | "issubclass" => some [unnamed "cls", unnamed "class_or_tuple"]
  | "len" => some [unnamed "obj"]
  | "locals" => some []
  | "oct" => some [unnamed "number"]
  | "open" =>
    some [plain "file", optional "mode" (.ofText "r"), optional "buffering" (.ofInt (-1)),
      optional "encoding" .absent, optional "errors" .absent, optional "newline" .absent,
      optional "closefd" (.bool true), optional "opener" .absent]
  | "ord" => some [unnamed "c"]
  | "pow" => some [plain "base", plain "exp", optional "mod" .absent]
  | "print" =>
    some [rest "args", named "sep" (.ofText " "), named "end" (.ofText "\n"),
      named "file" .absent, named "flush" (.bool false)]
  | "repr" => some [unnamed "obj"]
  | "round" => some [plain "number", optional "ndigits" .absent]
  | "setattr" => some [unnamed "obj", unnamed "name", unnamed "value"]
  | "sorted" => some [unnamed "iterable", named "key" .absent, named "reverse" (.bool false)]
  | "sum" => some [unnamed "iterable", optional "start" (.ofInt 0)]
  | "unimplemented" => some [plain "target", plain "method"]
  | _ => none

/-- The parameters that are left once some arguments are bound.  Binding one by name leaves those
after it to be given by name. -/
def afterPartial (keywords : List (String × Value)) :
    Bool → List CallParameter → Nat → List CallParameter
  | _, [], _ => []
  | named, parameter :: rest, taken =>
    match parameter.kind, taken, keywords.lookup parameter.name with
    | .variadic, _, _ =>
      if named then afterPartial keywords named rest 0
      else parameter :: afterPartial keywords named rest 0
    | .positionalOnly, taken + 1, _ => afterPartial keywords named rest taken
    | .positional, taken + 1, _ => afterPartial keywords named rest taken
    | .positional, 0, some value =>
      { parameter with kind := .keywordOnly, default := some value } ::
        afterPartial keywords true rest 0
    | .keywordOnly, taken, some value =>
      { parameter with default := some value } :: afterPartial keywords named rest taken
    | .positional, 0, none =>
      { parameter with kind := if named then .keywordOnly else .positional } ::
        afterPartial keywords named rest 0
    | _, taken, _ => parameter :: afterPartial keywords named rest taken

/-- Do some arguments fit, if more may follow? -/
def fitsPartially (parameters : List CallParameter) (positional : List Value)
    (keywords : List (String × Value)) : Bool :=
  let optional := parameters.map fun parameter =>
    if parameter.kind.isVariadic then parameter
    else { parameter with default := some (parameter.default.getD .absent) }
  (Arguments.fit? optional { positional, keywords }).isSome

/-- The parameters of a method once it is bound to its receiver. -/
def withoutReceiver : List CallParameter → Except Fault (List CallParameter)
  | [] => .error (.badValue "invalid method signature")
  | parameter :: rest =>
    match parameter.kind with
    | .positionalOnly => .ok rest
    | .positional => .ok rest
    | .variadic => .ok (parameter :: rest)
    | _ => .error (.badValue "invalid method signature")

/-- A value behind those that stand in for it. -/
def unwrapped (store : Store) : Nat → Value → Value
  | 0, value => value
  | bound + 1, value =>
    match store.ownAttribute? value "__wrapped__" with
    | some inner => store.unwrapped bound inner
    | none => value

/-- The parameters of a special method that many classes have, the receiver not counted. -/
def specialParameters (owner : ClassId) (name : String) : List CallParameter :=
  if ["__eq__", "__ne__", "__lt__", "__le__", "__gt__", "__ge__", "__add__", "__sub__", "__mul__",
      "__radd__", "__rmul__"].contains name then
    if owner.isStandard then [unnamed "value"] else [plain "other"]
  else if name = "__getattribute__" ∨ name = "__delattr__" then [unnamed "name"]
  else if name = "__setattr__" then [unnamed "name", unnamed "value"]
  else if name = "__format__" then [unnamed "format_spec"]
  else if name = "__reduce_ex__" then [unnamed "protocol"]
  else if name = "__contains__" ∨ name = "__delitem__" then [unnamed "key"]
  else if name = "__setitem__" then [unnamed "key", unnamed "value"]
  else if owner.isStandard && (name = "__init__" || name = "__new__" || name = "__call__") then
    [rest "args"]
  else []

/-- Why the parameters of a method of a plain value are not known. -/
def untold? (owner : ClassId) (name shown : String) : Option Fault :=
  let untold := match owner.name with
    | "dict" => ["clear", "copy", "items", "keys", "update", "values"]
    | "str" => ["count", "endswith", "find", "index", "startswith"]
    | "object" => ["__init_subclass__", "__subclasshook__"]
    | _ => []
  if !owner.isStandard then none
  else if untold.contains name ∨ name = "__getitem__" ∨ name = "__class_getitem__" then
    some (.noSignature shown)
  else if owner = ClassId.dict ∧ name = "pop" then
    some (.badValue (shown ++ " builtin has invalid signature"))
  else none

/-- The parameters of a value, through at most `bound` values that stand in for another. -/
def parametersWithin (store : Store) : Nat → Value → Except Fault (List CallParameter)
  | 0, _ => .error .outOfFuel
  | bound + 1, value =>
    match value with
    | .cls id =>
      match store.find id "__init__" with
      | some (.value (.builtin _)) => .error (.noSignature ("type " ++ id.spelling))
      | some (.value function) => do
        withoutReceiver (← store.parametersWithin bound function)
      | found =>
        match store.recordFields? id, found with
        | some fields, _ => .ok (RecordField.parameters fields)
        | none, some (.member _ _ (.method parameters)) => .ok parameters
        | none, _ =>
          if store.isSubclass id ClassId.baseException then
            .error (.noSignature ("type " ++ id.spelling))
          else if id = ClassId.type then .error (.noSignature id.spelling)
          else if id.isStandard then
            match standardConstructor? id.name with
            | some parameters => .ok parameters
            | none => .error (.noSignature ("type " ++ id.spelling))
          else .ok (store.hostConstructor id)
    | .applied id _ _ => store.parametersWithin bound (.cls id)
    | .builtin name =>
      match builtinParameters? name with
      | some parameters => .ok parameters
      | none =>
        if name = "anext" then
          .error (.badValue (store.describe value ++ " builtin has invalid signature"))
        else .error (.noSignature (store.describe value))
    | .hostMethod owner name =>
      match untold? owner name (store.describe value), owner.members.lookup name with
      | some fault, _ => .error fault
      | none, some (.method parameters) => .ok (CallParameter.plain "self" :: parameters)
      | none, _ =>
        match if name = "__init__" then store.recordFields? owner else none with
        | some fields => .ok (CallParameter.plain "self" :: RecordField.parameters fields)
        | none => .ok (CallParameter.plain "self" :: specialParameters owner name)
    | .bound _ (.builtin "dispatch") _ => .ok [plain "cls"]
    | .bound _ (.builtin "register") _ => .ok [plain "cls", optional "func" .absent]
    | .bound _ function _ => do
      if let .hostMethod owner name := function then
        if let some fault := untold? owner name (store.describe value) then throw fault
      withoutReceiver (← store.parametersWithin bound function)
    | .object id _ =>
      let told := store.ownAttribute? value "__signature__"
      if (told.map fun told => told.classId != ClassId.none).getD false then
        .error (.misuse .operands)
      else
      match if told.isSome then none else store.ownAttribute? value "__wrapped__" with
      | some inner =>
        match store.parametersWithin bound inner with
        | .error (.misuse .notCallable) =>
          .error (.badValue ("callable " ++ store.describe inner ++
            " is not supported by signature"))
        | answer => answer
      | none =>
        match store.objectOf? value with
        | some (.function function) => .ok function.parameters
        | some (.partialCall function positional keywords) => do
          let parameters ← store.parametersWithin bound function
          if fitsPartially parameters positional keywords then
            return afterPartial keywords false parameters positional.length
          else throw (.badPartial (store.describe value))
        | _ =>
          match if id.isStandard then none else store.find id "__call__" with
          | some (.value function) => do
            withoutReceiver (← store.parametersWithin bound function)
          | _ => .error (.misuse .notCallable)
    | _ => .error (.misuse .notCallable)

/-- The first parameter whose name no call can write, although it can be given by name. -/
def checkNames (parameters : List CallParameter) : Except Fault (List CallParameter) :=
  match Signature.unwritable? parameters with
  | some name => .error (.badParameterName name)
  | none => .ok parameters

/-- The parameters of a value. -/
def parameters (store : Store) (value : Value) : Except Fault (List CallParameter) := do
  checkNames (← store.parametersWithin (store.cells.size + 3) value)

/-! ## Routines -/

/-- The items of a sequence, if a value is one. -/
def sequence? (store : Store) (value : Value) : Option (List Value) :=
  match value with
  | .tuple items _ => some items
  | .text text _ => some (Action.characters text)
  | value =>
    match store.objectOf? value with
    | some (.list items) => some items
    | some (.dict entries) => some (entries.map Prod.fst)
    | _ => none

/-- The annotations of a function. -/
def annotationsOf (store : Store) (function : FunctionObject) : Bindings :=
  match store.objectOf? function.annotations with
  | some (.dict entries) => entries.filterMap fun (key, value) => key.asText?.map (·, value)
  | _ => []

/-- The names that the annotations of a function are written with: those of the innermost function
that it stands in for. -/
def namesAround (store : Store) (value : Value) : Bindings :=
  match store.functionOf? (store.unwrapped store.cells.size value) with
  | some inner => inner.names
  | none => []

/-- A function as the routine that a command is made from, before its parameters are known. -/
def outlineOf (store : Store) (value : Value) (function : FunctionObject) :
    Except Fault Routine := do
  let innermost := store.unwrapped store.cells.size value
  if (store.ownAttribute? innermost "__wrapped__").isSome then
    throw (.badValue ("wrapper loop when unwrapping " ++ store.describe value))
  let inner := store.functionOf? innermost
  return {
    name := function.name
    qualname := function.qualname
    home := store.textOf function.home
    doc := function.doc.asText?
    parameters := []
    annotations := store.annotationsOf function
    typeParameters := []
    isSuspended := match function.body with
      | .suspended => true
      | _ => false
    file := function.file
    line := function.line
    source := (inner.map FunctionObject.source).getD .missing
    names := (inner.map FunctionObject.names).getD [] }

/-- A function as the routine that a command is made from. -/
def routineOf (store : Store) (value : Value) (function : FunctionObject) :
    Except Fault Routine := do
  let outline ← store.outlineOf value function
  let typeParameters ← match store.ownAttribute? value "__type_params__" with
    | none => .ok []
    | some given =>
      match store.sequence? given with
      | some items => .ok items
      | none => .error (.misuse .notIterable)
  let parameters ← store.parametersWithin (store.cells.size + 3) value
  return { outline with parameters, typeParameters }

end Store

end Deferred
