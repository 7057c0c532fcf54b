import Deferred.Script.Datum

/-!
# The module of a scenario

A scenario takes place in a module that holds the names of the reference host, a few component
classes, look-alikes of the host's classes from elsewhere, and two handlers that do nothing.
-/

namespace Deferred.Scenario

open Deferred.Action

/-- The classes of faults that the reference host exports. -/
def faultClasses : List String :=
  ["EntityNotFoundError", "MissingResourceError", "QueryEntityError", "SystemParamError"]

/-- Everything that the reference host exports. -/
def hostNames : Namespace :=
  Host.referenceMarkers ++
    [("CommandQueue", .ofClass ClassId.commandQueue), ("Res", .ofClass ClassId.resource),
      ("ResMut", .ofClass ClassId.resourceMut), ("Query", .ofClass ClassId.query)] ++
    faultClasses.map fun name => (name, .ofClass (.declared "commandify.ecs.errors" name))

/-- The classes of the module besides those of the host. -/
def classNames : Namespace :=
  [("Gold", .ofClass ClassId.gold), ("Health", .ofClass ClassId.health),
    ("Label", .ofClass ClassId.label), ("Log", .ofClass ClassId.journal),
    ("LocalWorld", .ofClass ClassId.localWorld), ("LocalCommands", .ofClass ClassId.localCommands),
    ("ForeignWorld", .ofClass ClassId.foreignWorld),
    ("ForeignEntity", .ofClass ClassId.foreignEntity),
    ("ForeignIn", .ofClass ClassId.foreignInput), ("Annotated", .ofClass ClassId.annotated),
    ("Any", .any), ("ClassVar", .special "ClassVar"), ("Optional", .special "Optional"),
    ("Self", .receiver), ("T", .typeVariable "T"), ("U", .typeVariable "U"),
    ("V", .typeVariable "V"), ("Bind", .ofClass ClassId.pattern),
    ("Result", .ofClass ClassId.outcome)]

/-- The names that every module has by itself. -/
def ownNames (module : String) : Namespace :=
  [("__name__", .ofText module), ("__doc__", .absent), ("__package__", .ofText ""),
    ("__loader__", .absent), ("__spec__", .absent)]

/-- The names of a module with what they mean at the moment. -/
def namesOf (store : Store) (module : String) : Bindings :=
  (store.modules.made.lookup module).getD []

/-- Make a handler that does nothing with its input. -/
def makeIdleHandler (home name parameter : String) : Action Value := do
  let annotations ← newTable [(parameter, .ofText "In[object]")]
  allocate ClassId.function (.function
    { name, qualname := name, home := .ofText home, doc := .absent
      parameters := [.plain parameter], annotations, body := .inert
      names := [("In", .ofClass ClassId.input)] })

/-- Make the decorator that leaves a routine as it is. -/
def makeIdleDecorator (home : String) : Action Value := do
  let annotations ← newTable []
  allocate ClassId.function (.function
    { name := "deco", qualname := "deco", home := .ofText home, doc := .absent
      parameters :=
        [.rest "args", { name := "kwargs", kind := .keywordVariadic, default := none }]
      annotations, body := .inert })

/-- Make a module with the names that scenarios start from. -/
def makeModule (name : String) : Action Unit := do
  let onSuccess ← makeIdleHandler name "on_ok" "value"
  let onFailure ← makeIdleHandler name "on_err" "error"
  let decorator ← makeIdleDecorator name
  perform (.makeModule name
    (ownNames name ++ hostNames ++ classNames ++
      [("on_ok", onSuccess), ("on_err", onFailure), ("deco", decorator)]) true)

/-- What a name of a host module is replaced by. -/
inductive Replacement where
  | type (name : String)
  | types (names : List String)
  deriving Inhabited

/-- A host module as it is described. -/
structure HostModule where
  name : String
  exported : List String
  replaced : List (String × Replacement)
  listed : Bool
  deriving Inhabited

/-- A class by its name in a module. -/
def classNamed (module name : String) : Action Value :=
  Datum.make module (.type name)

/-- The classes of several names. -/
def classesNamed (module : String) : List String → Action (List Value)
  | [] => return []
  | name :: rest => do
    let value ← classNamed module name
    return value :: (← classesNamed module rest)

/-- Put the replaced names into a namespace. -/
def replaceNames (module : String) : Namespace → List (String × Replacement) → Action Namespace
  | names, [] => return names
  | names, (name, .type replacement) :: rest => do
    replaceNames module (Entries.put names name (← classNamed module replacement)) rest
  | names, (name, .types replacements) :: rest => do
    let values ← classesNamed module replacements
    replaceNames module (Entries.put names name (.tuple values 0)) rest

/-- The names that a host module takes over from the reference host. -/
def exportedNames : List String → Action Namespace
  | [] => return []
  | name :: rest => do
    let value ← orFail (.noAttribute name) (hostNames.lookup name)
    return (name, value) :: (← exportedNames rest)

/-- Make a host module. -/
def makeHost (module : String) (host : HostModule) : Action Unit := do
  let names ← replaceNames module (← exportedNames host.exported) host.replaced
  perform (.makeModule host.name names host.listed)

end Deferred.Scenario
