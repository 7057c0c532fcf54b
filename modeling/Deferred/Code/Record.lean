import Deferred.Call.Parameters

/-!
# Classes made of fields

A class is made of fields by the annotations in its body.  What the class has under the name of a
field is its default, be it set there or inherited; the fields of the classes above come first.
-/

namespace Deferred

namespace ClassId

/-- The class of what a class body sets a field to, to say more than its default. -/
def fieldOptions : ClassId := declared "dataclasses" "Field"

end ClassId

namespace Store

/-- The fields that a class inherits, those of the class furthest above it first. -/
def inheritedFields (store : Store) (id : ClassId) : List (String × RecordField) :=
  ((store.ancestors id).drop 1).reverse.foldl
    (fun sofar parent =>
      Entries.putAll sofar (((store.fieldsOfClass? parent).getD []).map fun field =>
        (field.name, field)))
    []

/-- The first field without a default behind one that has a default, among those that are given by
position. -/
def unorderedField? : Bool → List RecordField → Option String
  | _, [] => none
  | seen, field :: rest =>
    if field.keywordOnly then unorderedField? seen rest
    else if field.default.isSome || field.factory.isSome then unorderedField? true rest
    else if seen then some field.name
    else unorderedField? seen rest

/-- A parameter of a constructor as it is shown. -/
def shownField (store : Store) (field : RecordField) : String :=
  field.name ++ ": " ++ Text.quote field.hint ++
    match field.default, field.factory with
    | some value, _ => " = " ++ store.describe value
    | none, some _ => " = <factory>"
    | none, none => ""

/-- How a class made of fields is called. -/
def shownConstructor (store : Store) (id : ClassId) (fields : List RecordField) : String :=
  let named := fields.filter (·.keywordOnly)
  let parts := (fields.filter (!·.keywordOnly)).map store.shownField ++
    (if named.isEmpty then [] else "*" :: named.map store.shownField)
  id.name ++ "(" ++ String.intercalate ", " parts ++ ")"

end Store

namespace Action

/-- The field that a class has under an annotated name. -/
def fieldOf (call : Caller) (id : ClassId) (name hint : String) : Action RecordField := do
  let found ← attribute? call (.ofClass id) name
  let store ← store
  let field : RecordField := match found with
    | none => { name, hint }
    | some value =>
      if value.classId = ClassId.fieldOptions then
        { name, hint
          default := store.ownAttribute? value "default"
          factory := store.ownAttribute? value "default_factory"
          keywordOnly := ((store.ownAttribute? value "kw_only").map store.isTrue).getD false }
      else { name, hint, default := some value }
  let home := match store.typeAttribute? id "__module__" with
    | some (.text home _) => store.moduleNames? home
    | _ => none
  if home.isNone then fail (.noAttribute "__dict__")
  match field.default with
  | some value =>
    if value.classId.isUnhashable then
      fail (.badValue ("mutable default " ++ store.describe (.ofClass value.classId) ++
        " for field " ++ name ++ " is not allowed: use default_factory"))
    else return field
  | none => return field

/-- The fields that the body of a class declares. -/
def ownFields (call : Caller) (id : ClassId) : Bindings → Action (List RecordField)
  | [] => return []
  | (name, hint) :: rest => do
    let shown := (← store).textOf hint
    let field ← fieldOf call id name shown
    return field :: (← ownFields call id rest)

/-- Leave the default of a field on the class, where the body said more than the default. -/
def settleDefault (id : ClassId) (field : RecordField) : Action Unit := do
  match (← store).classAttribute? id field.name with
  | some value =>
    if value.classId = ClassId.fieldOptions then
      match field.default with
      | some default => perform (.setClassAttribute id field.name default)
      | none => perform (.removeClassAttribute id field.name)
    else done ()
  | none => done ()

/-- Say how a class is called, unless its body has words of its own. -/
def settleDoc (id : ClassId) (fields : List RecordField) : Action Unit := do
  let store ← store
  if store.isTrue ((store.classAttribute? id "__doc__").getD .absent) then done ()
  else
    let (maker, parameters) := match store.classAttribute? id "__new__" with
      | some function => (function, store.parameters function)
      | none => ((store.classAttribute? id "__init__").getD .absent, store.parameters (.ofClass id))
    match parameters with
    | .error (.misuse .notCallable) =>
      fail (.mismatch (store.describe maker ++ " is not a callable object"))
    | .error fault => fail fault
    | .ok _ =>
      perform (.setClassAttribute id "__doc__" (.ofText (store.shownConstructor id fields)))

/-- Make a class one whose instances are made of fields. -/
def declareFields (call : Caller) (id : ClassId) : Action Unit := do
  let before ← store
  let hints := match (before.classAttribute? id "__annotations__").bind before.objectOf? with
    | some (.dict entries) => entries.filterMap fun (key, value) => key.asText?.map (·, value)
    | _ => []
  let own ← ownFields call id hints
  forEach own (settleDefault id)
  let store ← store
  if ((store.ancestors id).drop 1).any ClassId.isFrozen then
    fail (.mismatch "cannot inherit non-frozen dataclass from a frozen one")
  let fields := (Entries.putAll (store.inheritedFields id)
    (own.map fun field => (field.name, field))).map Prod.snd
  match Store.unorderedField? false fields with
  | some name =>
    fail (.mismatch ("non-default argument " ++ Text.quote name ++ " follows default argument"))
  | none => done ()
  match Entries.get? store.generated id with
  | some declared =>
    let settles := (store.find id "__post_init__").isSome
    perform (.declareClass id { declared with fields := some fields, settles })
  | none => done ()
  if (store.classAttribute? id "__match_args__").isNone then
    perform (.setClassAttribute id "__match_args__"
      (.tuple ((fields.filter (!·.keywordOnly)).map fun field => .ofText field.name) 0))
  settleDoc id fields

end Action

end Deferred
