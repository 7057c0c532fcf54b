import Deferred.Call.Operate

/-!
# Choosing by class

Two things are chosen by the class of a value.  A dispatching function calls the implementation for
the class of its first argument, that of the nearest class it inherits from.  A class that is meant
to be implemented keeps the classes that were declared to implement it.
-/

namespace Deferred.Action

/-- The fault of an annotation without meaning. -/
def unresolvedFault (store : Store) : Hint.ResolveError → Fault
  | .undefined name => .undefinedName name
  | .unreadable text => .badCode (Hint.ResolveError.message store.describe (.unreadable text))
  | .emptyText => .badIndex
  | .nullCharacter => .badValue (Hint.ResolveError.nullCharacter.message store.describe)
  | .badIndex => .badIndex
  | .keyMissing key => .keyMissing (store.describe key)
  | .noAttribute name => .noAttribute name
  | error => .mismatch (error.message store.describe)

/-! ## Dispatching functions -/

/-- The implementation for a class. -/
def implementationFor (store : Store) (implementations : List (ClassId × Value))
    (otherwise : Value) (id : ClassId) : Value :=
  let inherited (ids : List ClassId) : Option Value := ids.findSome? (Entries.get? implementations)
  match inherited ((store.ancestors id).filter (· ≠ ClassId.object)) with
  | some function => function
  | none =>
    match implementations.find? fun (parent, _) => store.isSubclass id parent with
    | some (_, function) => function
    | none => otherwise

/-- The function that chooses among implementations, when there is none but the first. -/
def dispatching (function : Value) : Action Value := do
  let store ← store
  match store.functionOf? function with
  | some described => do
    let made ← allocate ClassId.function
      (.function { described with body := .dispatch [] function })
      (Entries.put (store.attributesOf function) "__wrapped__" function)
    return made
  | none => fail (.noAttribute "__name__")

/-- The classes that an implementation can be registered for under one value. -/
def dispatchClasses? : Value → Option (List ClassId)
  | .cls id => some [id]
  | .optional (.cls id) => some [id, ClassId.none]
  | _ => none

/-- The first annotated class of a function that is registered without a class. -/
def annotatedClass (function : Value) : Action (List ClassId) := do
  let store ← store
  match (store.functionOf? function).map fun described =>
      (store.annotationsOf described, store.functionHints function described) with
  | some (_ :: _, .error error) => fail (unresolvedFault store error)
  | some (_ :: _, .ok ((name, hint) :: _)) =>
    let hint := hint.stripNotes
    orFail (.mismatch ("Invalid annotation for " ++ Text.quote name ++ ". " ++
      store.describe hint ++ " is not a class.")) (dispatchClasses? hint)
  | _ =>
    fail (.mismatch ("Invalid first argument to `register()`: " ++ store.describe function ++
      ". Use either `@register(some_class)` or plain `@register` on an annotated function."))

/-- Add an implementation to a dispatching function. -/
def addImplementation (dispatcher function : Value) (ids : List ClassId) : Action Value := do
  let store ← store
  match dispatcher, store.functionOf? dispatcher with
  | .object _ place, some described =>
    match described.body with
    | .dispatch implementations otherwise => do
      perform (.setFunction place { described with
        body := .dispatch (Entries.putAll implementations (ids.map (·, function))) otherwise })
      return function
    | _ => fail (.noAttribute "register")
  | _, _ => fail (.noAttribute "register")

/-- Register an implementation with a dispatching function.  Without an implementation the answer
registers the one it is called with. -/
def registerImplementation (dispatcher type : Value) (function : Option Value) : Action Value := do
  match dispatchClasses? type, function with
  | some ids, some function => addImplementation dispatcher function ids
  | some _, none =>
    allocate ClassId.partialCall
      (.partialCall (.bound dispatcher (.builtin "register") 0) [type] [])
  | none, some _ =>
    let shown := (← store).describe type
    fail (.mismatch ("Invalid first argument to `register()`. " ++ shown ++
      " is not a class or union type."))
  | none, none => addImplementation dispatcher type (← annotatedClass type)

/-! ## Classes that are implemented -/

/-- Does the class say itself that another implements it? -/
def saysImplemented (call : Caller) (parent : ClassId) (type : Value) : Action Bool := do
  match (← store).classAttribute? parent "__subclasshook__" with
  | none => return false
  | some hook => do
    match ← call hook (.ofList [type]) with
    | .bool answer => return answer
    | _ =>
      fail (.foreign "AssertionError"
        "__subclasshook__ must return either False, True, or NotImplemented")

/-- Is a class below one that is meant to be implemented? -/
def isImplemented (call : Caller) (parent id : ClassId) : Action Bool := do
  let store ← store
  if (store.classAttribute? parent "_abc_impl").isSome then
    fail (.mismatch "_abc_impl is set to a wrong type")
  else if ← saysImplemented call parent (.cls id) then return true
  else if store.isSubclass id parent then return true
  else
    match store.classAttribute? parent "__subclasses__" with
    | none => return false
    | some method => do
      match (← Action.store).listOf? (← call method {}) with
      | some _ => return false
      | none => fail (.mismatch "__subclasses__() must return a list")

/-- Declare that a class implements another. -/
def registerImplementer (call : Caller) (parent : ClassId) (type : Value) : Action Value := do
  match type with
  | .cls id => do
    if ← isImplemented call parent id then return type
    else
      let store ← store
      if store.isSubclass parent id then
        fail (.foreign "RuntimeError" "Refusing to create an inheritance cycle")
      else
        match Entries.get? store.generated parent with
        | some declared => do
          perform (.declareClass parent
            { declared with registered := declared.registered ++ [id] })
          return type
        | none => return type
  | _ => fail (.mismatch "Can only register classes")

end Deferred.Action
