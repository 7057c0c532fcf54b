import Deferred.Data.Entries
import Deferred.Value

/-!
# The world

A world holds entities with their components and, beside them, resources.  Entities are numbered in
the order in which they are reserved and a number is never given twice.  Components and resources
are kept by the exact class of their value, so that an entity holds at most one component of a
class; replacing a value keeps its place in the order, removing it does not.
-/

namespace Deferred

/-- The handle of an entity as a world gives it out. -/
structure Entity where
  index : Int
  mark : Mark
  deriving DecidableEq, Repr, Inhabited

/-- A handle as a value. -/
def Entity.toValue (entity : Entity) : Value :=
  .entity (.ofInt entity.index) entity.mark

/-- A live entity and its components. -/
structure Row where
  handle : Entity
  components : List (ClassId × Value)
  deriving Inhabited

/-- Entities, components and resources. -/
structure World where
  /-- The number of the next entity. -/
  nextIndex : Nat := 0
  rows : List Row := []
  resources : List (ClassId × Value) := []
  deriving Inhabited

namespace World

/-- The row of an entity. -/
def row? (world : World) (index : Int) : Option Row :=
  world.rows.find? fun row => row.handle.index = index

/-- Is an entity live? -/
def isLive (world : World) (index : Int) : Bool :=
  (world.row? index).isSome

/-- The live entities, in the order in which they were reserved. -/
def entities (world : World) : List Entity :=
  world.rows.map Row.handle

/-- The handle that the next reservation gives out. -/
def nextHandle (world : World) (mark : Mark) : Entity :=
  { index := world.nextIndex, mark }

/-- Reserve a new entity without components. -/
def reserve (world : World) (mark : Mark) : World :=
  { world with
    nextIndex := world.nextIndex + 1
    rows := world.rows ++ [{ handle := world.nextHandle mark, components := [] }] }

/-- Remove an entity with its components. -/
def despawn (world : World) (index : Int) : World :=
  { world with rows := world.rows.filter fun row => row.handle.index ≠ index }

/-- Put a component on an entity, under the class of the component. -/
def insert (world : World) (index : Int) (component : Value) : World :=
  { world with
    rows := world.rows.map fun row =>
      if row.handle.index = index then
        { row with components := Entries.put row.components component.classId component }
      else row }

/-- The component of an entity under a class. -/
def component? (world : World) (index : Int) (id : ClassId) : Option Value :=
  (world.row? index).bind fun row => Entries.get? row.components id

/-- Put a resource into the world, under its class. -/
def insertResource (world : World) (resource : Value) : World :=
  { world with resources := Entries.put world.resources resource.classId resource }

/-- The resource under a class. -/
def resource? (world : World) (id : ClassId) : Option Value :=
  Entries.get? world.resources id

/-- Take a resource out of the world. -/
def removeResource (world : World) (id : ClassId) : World :=
  { world with resources := Entries.remove world.resources id }

end World

end Deferred
