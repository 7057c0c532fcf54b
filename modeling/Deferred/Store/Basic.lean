import Deferred.Host.Basic
import Deferred.Report
import Deferred.Store.Object

/-!
# The store

The store holds every object by its place, the classes that generations made, the attributes that
were put on classes, and the names of the modules.  It grows only at the end, so the place of an
object never changes its meaning.
-/

namespace Deferred

/-- A value as an answer shows it. -/
inductive Shown where
  | absent
  | bool (value : Bool)
  | int (value : Int)
  | float (value : Float)
  | text (value : String)
  | list (items : List Shown)
  | tuple (items : List Shown)
  | dict (entries : List (Shown × Shown))
  | entity (index : Shown)
  | success (value : Shown)
  | failure (value : Shown)
  | type (spelling : String)
  | module (name : String)
  | record (className : String) (fields : List (String × Shown))
  | component (className : String) (value : Shown)
  | queued (className : String) (count : Nat)
  | handle (className : String) (index : Shown)
  | function (name : String)
  | other (className : String)
  deriving Inhabited

/-- How urgent a notice is. -/
inductive Level where
  | debug
  | warning
  deriving DecidableEq, Repr, Inhabited

/-- How a level is written. -/
def Level.name : Level → String
  | .debug => "DEBUG"
  | .warning => "WARNING"

/-- A notice about a decoration. -/
inductive Notice where
  | generated (record qualname : String) (mode : Mode) (extension : Option String)
  | replaced (hostType method extension : String)
  | failed (report : Report)
  deriving Inhabited

/-- All objects, classes and names. -/
structure Store where
  cells : Array Cell := #[]
  generated : List (ClassId × GeneratedClass) := []
  /-- Attributes put on classes, each with its class. -/
  attributes : List (ClassId × Bindings) := []
  /-- The members that classes had from the start and that were taken off them. -/
  removed : List (ClassId × String) := []
  modules : Modules := {}
  /-- How many marks were given out. -/
  marks : Nat := 0
  log : List Shown := []
  /-- What was printed. -/
  printed : String := ""
  notices : List Notice := []
  deriving Inhabited

namespace Store

/-- The object at a place. -/
def cell? (store : Store) (place : Ref) : Option Cell := store.cells[place]?

/-- What stands at a place. -/
def object? (store : Store) (place : Ref) : Option Object := (store.cell? place).map Cell.object

/-- What a value is made of, if it is an object. -/
def objectOf? (store : Store) : Value → Option Object
  | .object _ place => store.object? place
  | _ => none

/-- The attributes of an object. -/
def attributesOf (store : Store) : Value → Bindings
  | .object _ place => ((store.cell? place).map Cell.attributes).getD []
  | _ => []

/-- An attribute of an object itself. -/
def ownAttribute? (store : Store) (value : Value) (name : String) : Option Value :=
  Entries.get? (store.attributesOf value) name

/-- The mark that the next value gets that is made apart. -/
def nextMark (store : Store) : Mark := store.marks + 1

/-- The world a value is. -/
def worldOf? (store : Store) (value : Value) : Option World :=
  match store.objectOf? value with
  | some (.world world) => some world
  | _ => none

/-- The commands that wait in a queue. -/
def pendingOf? (store : Store) (value : Value) : Option (List Value) :=
  match store.objectOf? value with
  | some (.queue pending) => some pending
  | _ => none

/-- The function a value is. -/
def functionOf? (store : Store) (value : Value) : Option FunctionObject :=
  match store.objectOf? value with
  | some (.function function) => some function
  | _ => none

/-- The items of a list. -/
def listOf? (store : Store) (value : Value) : Option (List Value) :=
  match store.objectOf? value with
  | some (.list items) => some items
  | _ => none

/-- The variables of a scope. -/
def locals (store : Store) (place : Ref) : Bindings :=
  match store.object? place with
  | some (.scope _ locals) => locals
  | _ => []

/-- The module that a scope belongs to. -/
def moduleOf (store : Store) (place : Ref) : String :=
  match store.object? place with
  | some (.scope module _) => module
  | _ => ""

/-- The names of a space. -/
def names (store : Store) (place : Ref) : Bindings :=
  match store.object? place with
  | some (.space names) => names
  | _ => []

/-- The generation behind a value. -/
def generationOf? (store : Store) (value : Value) : Option Generation :=
  match store.objectOf? value with
  | some (.artifact generation) => some generation
  | _ => none

/-- The direct bases of a class. -/
def bases (store : Store) (id : ClassId) : List ClassId :=
  match Entries.get? store.generated id with
  | some declared => declared.bases
  | none => id.declaredBases

/-- Keep the last of several equal classes. -/
def keepLast : List ClassId → List ClassId
  | [] => []
  | id :: rest => if rest.contains id then keepLast rest else id :: keepLast rest

/-- A class that is known from the start with everything above it, bases in turn. -/
def aboveDeclared : Nat → ClassId → List ClassId
  | 0, id => [id]
  | bound + 1, id => id :: id.declaredBases.flatMap (aboveDeclared bound)

/-- The classes that a class inherits from, nearest first. -/
def ancestors (store : Store) (id : ClassId) : List ClassId :=
  match Entries.get? store.generated id with
  | some declared => declared.ancestors
  | none => keepLast (aboveDeclared 8 id)

/-- Is a class another one, or below it? -/
def isSubclass (store : Store) (id parent : ClassId) : Bool :=
  (store.ancestors id).contains parent ||
    match Entries.get? store.generated parent with
    | some declared =>
      declared.registered.any fun implementer => (store.ancestors id).contains implementer
    | none => false

/-- Is a value an instance of a class? -/
def isInstance (store : Store) (value : Value) (id : ClassId) : Bool :=
  store.isSubclass value.classId id

/-- An attribute that was put on a class itself. -/
def classAttribute? (store : Store) (id : ClassId) (name : String) : Option Value :=
  (Entries.get? store.attributes id).bind fun bindings => Entries.get? bindings name

/-- The fields of a class that is made of fields, those it inherits first. -/
def recordFields? (store : Store) (id : ClassId) : Option (List RecordField) :=
  (Entries.get? store.generated id).bind GeneratedClass.fields

/-- The names of a module, if it can be found by its name. -/
def moduleNames? (store : Store) (name : String) : Option Namespace :=
  if store.modules.listed.contains name then some ((store.modules.made.lookup name).getD [])
  else if Host.isInstalled name then
    some ((store.modules.made.lookup name).getD (Host.installedExports name))
  else none

end Store

end Deferred
