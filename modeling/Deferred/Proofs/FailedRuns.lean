import Deferred.Proofs.Checking
import Deferred.Proofs.Preparing

/-!
# Runs that fail

A run that the host gives up has applied nothing of what was to be done later.  Where it does not
come to the call of the routine, the world is what it was, with its resources and the number of its
next entity.  Where the routine fails, the run ends with what the routine did: entities that it
reserved stay reserved, and the commands that it recorded through its handles wait in their queues,
unless the routine has applied a handle itself.
-/

namespace Deferred

open Store Action

variable {before given after store : Store} {bound : Nat} {id : ClassId} {place : Ref}
  {content : World} {system : Value} {input : Option Value} {injection : Injection} {fault : Fault}

/-! ## Reserved entities -/

/-- Does a change reserve an entity of the world at a place? -/
def Change.reserves (place : Ref) : Change → Bool
  | .reserve target => target = place
  | _ => false

namespace Store

end Store

namespace Action

/-! ## Runs that fail -/

/-- The routine is called with the arguments that were collected for it. -/
def enter (call : Caller) (system : Value) (injection : Injection) : Action Value :=
  call system { positional := injection.positional, keywords := injection.keywords }

/-- The number of the next entity of the world, and how many resources it holds. -/
def counts (store : Store) : Option (Nat × Nat) :=
  (store.worldOf? (.object ClassId.world 3)).map fun content =>
    (content.nextIndex, content.resources.length)

end Action

end Deferred
