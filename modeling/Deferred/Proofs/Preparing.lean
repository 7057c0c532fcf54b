import Deferred.Proofs.Asking
import Deferred.Proofs.Flushing

/-!
# Preparing a run

Before the host calls a routine it reads the annotations of the routine and collects its arguments.
It reads the world for that, and it makes handles, queues and queries; but it puts nothing into the
world and takes nothing out of it, in whatever order the parameters stand and wherever it has to
stop.  What can do more is code that was put in the way: over the method of the world that finds
resources, or into the class of what a missing resource is named after.
-/

namespace Deferred

open Store Action

variable {before after store : Store} {bound : Nat} {id : ClassId} {place : Ref} {content : World}
  {system kind : Value} {input : Option Value} {hints : Bindings} {sofar injection : Injection}
  {parameter : CallParameter} {parameters : List CallParameter}

/-! ## A world that answers for itself -/

/-- A world stands at a place, and nothing was put over its way to find resources. -/
structure Store.HoldsWorld (store : Store) (id : ClassId) (place : Ref) (content : World) :
    Prop where
  isWorld : id = ClassId.world ∨ id = ClassId.localWorld
  holds : store.object? place = some (.world content)
  own : store.ownAttribute? (.object id place) "resource" = none

/-- Reading attributes of a value runs no code of its class. -/
def Store.PlainlyRead (store : Store) (value : Value) : Prop :=
  special? store value "__getattribute__" = none ∧ special? store value "__getattr__" = none

instance (store : Store) (value : Value) : Decidable (store.PlainlyRead value) :=
  inferInstanceAs (Decidable (_ ∧ _))

theorem Store.HoldsWorld.of_grows (holdsWorld : before.HoldsWorld id place content)
    (grows : before.Grows after) : after.HoldsWorld id place content where
  isWorld := holdsWorld.isWorld
  holds := grows.object? holdsWorld.holds
  own := by
    rw [grows.ownAttribute?_eq (lt_size_of_object? holdsWorld.holds)]
    exact holdsWorld.own

theorem Store.PlainlyRead.of_grows (plainly : before.PlainlyRead kind)
    (grows : before.Grows after) : after.PlainlyRead kind := by
  have same : ∀ name, special? after kind name = special? before kind name := fun name => by
    rw [special?, special?, grows.find_eq]
  rw [PlainlyRead, same, same]
  exact plainly

namespace Action

/-! ## Naming a class -/

end Action

end Deferred
