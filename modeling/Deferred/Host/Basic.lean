import Deferred.Data.Entries
import Deferred.Host.Installed
import Deferred.Span
import Deferred.Text.Quoted
import Deferred.Value

/-!
# Host roots

A host root is the module that tells generated code which runtime it targets: the classes that
parameters are recognised by and the types that get the new method.  Loading a root finds the
module and checks that it exports every marker; what each marker is, is taken as it is.
-/

namespace Deferred

/-- The names of a module and their values, in order of definition. -/
abbrev Namespace := List (String × Value)

/-- The modules that were made, by name; a module that is not listed cannot be found by its name. -/
structure Modules where
  made : List (String × Namespace) := []
  listed : List String := []
  deriving Inhabited

namespace Host

/-- Why a module cannot be found. -/
inductive ImportError where
  | notFound (path : String)
  /-- The module before the last dot holds no modules. -/
  | notInside (path parent : String)
  | emptyPath
  /-- The path starts with a dot. -/
  | relativePath (path : String)
  /-- The module is there and refuses to be loaded. -/
  | refused (words : String)
  deriving DecidableEq, Repr, Inhabited

namespace ImportError

def message : ImportError → String
  | notFound path => "No module named " ++ Text.quote path
  | notInside path parent =>
    "No module named " ++ Text.quote path ++ "; " ++ Text.quote parent ++ " is not a package"
  | emptyPath => "Empty module name"
  | relativePath path =>
    "the 'package' argument is required to perform a relative import for " ++ Text.quote path
  | refused words => words

end ImportError

/-- The markers a root must export. -/
def markers : List String :=
  ["World", "Entity", "In", "Commands", "EntityCommands", "EntityWorldMut", "Command",
    "EntityCommand", "SYSTEM_PARAMS"]

/-- The markers a parameter annotation can be mistaken for. -/
def handleMarkers : List String := ["World", "Entity", "In"]

/-- The parameters that the reference host injects, besides the world and the input. -/
def referenceParams : List ClassId :=
  [ClassId.commands, ClassId.resource, ClassId.resourceMut, ClassId.query]

/-- What each marker of the reference host is. -/
def referenceMarkers : Namespace :=
  [("World", .ofClass ClassId.world), ("Entity", .ofClass ClassId.entity),
    ("In", .ofClass ClassId.input), ("Commands", .ofClass ClassId.commands),
    ("EntityCommands", .ofClass ClassId.entityCommands),
    ("EntityWorldMut", .ofClass ClassId.entityAccess), ("Command", .ofClass ClassId.command),
    ("EntityCommand", .ofClass ClassId.entityCommand),
    ("SYSTEM_PARAMS", .tuple (referenceParams.map .ofClass) 0)]

/-- The markers among the exports of the modules that are always there. -/
def installedMarkers (path : String) : List String :=
  if path = "commandify.prelude" ∨ path = "commandify.ecs" then markers
  else if path = "commandify.ecs.world" then ["World", "Entity", "EntityWorldMut"]
  else if path = "commandify.ecs.entity" then ["Entity"]
  else if path = "commandify.ecs.command" then
    ["Commands", "EntityCommands", "Command", "EntityCommand"]
  else if path = "commandify.ecs.system" then ["In", "Commands", "SYSTEM_PARAMS"]
  else []

/-- The forms that types are written with, and what each is. -/
def typeForms : Namespace :=
  [("Annotated", .ofClass ClassId.annotated), ("Any", .any), ("Callable", .special "Callable"),
    ("ClassVar", .special "ClassVar"), ("Optional", .special "Optional"), ("Self", .receiver)]

/-- The exports of a module that is always there. -/
def installedExports (path : String) : Namespace :=
  (referenceMarkers.filter fun entry => (installedMarkers path).contains entry.1) ++
    ((sharedNames.filter fun (_, _, holders) => holders.contains path).map
      fun (home, name, _) => (name, .ofClass (.declared home name))) ++
    if path = "typing" then typeForms else []

/-- The part of a path before its last dot, if there is one. -/
def parent? (path : List Char) : Option (List Char) :=
  match path.reverse.dropWhile (· ≠ '.') with
  | [] => none
  | _ :: before => some before.reverse

/-- The exports of a module that is there already. -/
def loaded? (modules : Modules) (path : String) : Option Namespace :=
  if modules.listed.contains path then modules.made.lookup path
  else if isInstalled path then some (installedExports path)
  else none

/-- Find a module by its path, looking for the modules around it first. -/
def search (modules : Modules) : Nat → String → Except ImportError Namespace
  | 0, path => .error (.notFound path)
  | bound + 1, path =>
    match loaded? modules path with
    | some exports => .ok exports
    | none =>
      match parent? path.toList with
      | none => .error (.notFound path)
      | some [] => .error (.notFound path)
      | some (first :: rest) => do
        let parent := String.ofList (first :: rest)
        let _ ← search modules bound parent
        if let some words := refusals.lookup path then throw (.refused words)
        if isPackage parent && !modules.listed.contains parent then .error (.notFound path)
        else .error (.notInside path parent)

/-- Find a module by its path. -/
def find (modules : Modules) (path : String) : Except ImportError Namespace :=
  if path = "" then .error .emptyPath
  else if path.toList.head? = some '.' then .error (.relativePath path)
  else search modules (path.length + 1) path

/-- The root used when no keyword names one. -/
def defaultRoot : String := "commandify.prelude"

/-- The root of the host on its own. -/
def standaloneRoot : String := "commandify.ecs"

/-- A host root: a path, or a module that is at hand. -/
inductive Root where
  | path (path : String)
  | module (name : String)
  deriving DecidableEq, Repr, Inhabited

/-- The dotted name of a root. -/
def Root.name : Root → String
  | .path written => written
  | .module found => found

end Host

/-- Why a host root cannot be used. -/
inductive HostError where
  | notImported (root : String) (error : Host.ImportError)
  | incomplete (root : String) (missing : List String)
  /-- The system parameters are no sequence. -/
  | paramsNotListed
  deriving DecidableEq, Repr, Inhabited

namespace HostError

def kind (_ : HostError) : String := "InvalidHostRootError"

def message : HostError → String
  | notImported root error => "cannot import host root `" ++ root ++ "`: " ++ error.message
  | incomplete root missing =>
    "host root `" ++ root ++ "` does not export " ++ String.intercalate ", " missing
  | paramsNotListed => "the system parameters are no sequence"

end HostError

/-- The markers and host types of one host root. -/
structure Host where
  root : String
  world : Value
  entity : Value
  input : Value
  commands : Value
  entityCommands : Value
  entityAccess : Value
  command : Value
  entityCommand : Value
  systemParams : List Value
  deriving Inhabited

namespace Host

/-- The base class of generated records. -/
def commandBase (host : Host) (forEntity : Bool) : Value :=
  if forEntity then host.entityCommand else host.command

/-- The host type that queues a command. -/
def queuedTarget (host : Host) (forEntity : Bool) : Value :=
  if forEntity then host.entityCommands else host.commands

/-- The host type that applies a command at once. -/
def directTarget (host : Host) (forEntity : Bool) : Value :=
  if forEntity then host.entityAccess else host.world

/-- A marker by its name. -/
def marker? (host : Host) (name : String) : Option Value :=
  if name = "World" then some host.world
  else if name = "Entity" then some host.entity
  else if name = "In" then some host.input
  else if name = "Commands" then some host.commands
  else if name = "EntityCommands" then some host.entityCommands
  else if name = "EntityWorldMut" then some host.entityAccess
  else if name = "Command" then some host.command
  else if name = "EntityCommand" then some host.entityCommand
  else if name = "SYSTEM_PARAMS" then some (.tuple host.systemParams 0)
  else none

/-- Is `value` the thing that an annotation is? -/
def denotes (value hint : Value) : Bool := Value.same value hint

/-- The exports of a root. -/
def exports (modules : Modules) : Root → Except ImportError Namespace
  | .path written => find modules written
  | .module found =>
    match modules.made.lookup found with
    | some exports => .ok exports
    | none => .ok (installedExports found)

/-- Collect the markers of a root from its exports; `sequence?` gives the items of a sequence. -/
def ofExports (sequence? : Value → Option (List Value)) (root : String) (exports : Namespace) :
    Except HostError Host :=
  let missing := (markers.filter fun marker => (exports.lookup marker).isNone).mergeSort
    fun first second => !(second < first)
  if !missing.isEmpty then .error (.incomplete root missing)
  else
    let marker (name : String) : Value := (exports.lookup name).getD .absent
    match sequence? (marker "SYSTEM_PARAMS") with
    | some params => .ok
      { root
        world := marker "World"
        entity := marker "Entity"
        input := marker "In"
        commands := marker "Commands"
        entityCommands := marker "EntityCommands"
        entityAccess := marker "EntityWorldMut"
        command := marker "Command"
        entityCommand := marker "EntityCommand"
        systemParams := params }
    | none => .error .paramsNotListed

/-- Load a host root; `span` is where a diagnostic points. -/
def load (sequence? : Value → Option (List Value)) (modules : Modules) (root : Root)
    (span : Option Span) : Except (Located HostError) Host :=
  match exports modules root with
  | .error error => .error ⟨.notImported root.name error, span⟩
  | .ok exports =>
    match ofExports sequence? root.name exports with
    | .error error => .error ⟨error, span⟩
    | .ok host => .ok host

end Host

end Deferred
