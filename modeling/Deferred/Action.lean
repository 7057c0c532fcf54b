import Deferred.Fault
import Deferred.Store.Change

/-!
# Actions

An action is what a run does: it looks at the store, changes it, and comes to an answer or a fault.
An action is a tree of such steps, so whatever every single change keeps, every action keeps.  A
fault ends an action; the changes made before it stay.
-/

namespace Deferred

/-- Something that can be done with a store. -/
inductive Action (α : Type) : Type where
  | done (value : α)
  | fail (fault : Fault)
  | read (next : Store → Action α)
  | write (change : Change) (next : Action α)

namespace Action

variable {α β : Type}

instance : Inhabited (Action α) := ⟨.fail .outOfFuel⟩

/-- Continue with the answer of an action. -/
def bind : Action α → (α → Action β) → Action β
  | done value, next => next value
  | fail fault, _ => fail fault
  | read first, next => read fun store => (first store).bind next
  | write change rest, next => write change (rest.bind next)

instance : Monad Action where
  pure := done
  bind := bind

/-- The outcome of an action and the store after it. -/
def run : Action α → Store → Except Fault α × Store
  | done value, store => (.ok value, store)
  | fail fault, store => (.error fault, store)
  | read next, store => (next store).run store
  | write change next, store => next.run (change.apply store)

/-- The store as it is. -/
def store : Action Store := read done

/-- Something computed from the store. -/
def reading (compute : Store → α) : Action α := read fun store => done (compute store)

/-- Make one change. -/
def perform (change : Change) : Action Unit := write change (done ())

/-- Put a new object into the store. -/
def allocate (id : ClassId) (object : Object) (attributes : Bindings := []) : Action Value :=
  read fun store => write (.allocate object attributes) (done (.object id store.cells.size))

/-- Make a value that is told apart from all others. -/
def fresh (make : Mark → Value) : Action Value :=
  read fun store => write .takeMark (done (make store.nextMark))

/-- An answer, or the fault of having none. -/
def orFail (fault : Fault) : Option α → Action α
  | some value => done value
  | none => fail fault

/-- Do an action for each item in turn. -/
def forEach (items : List β) (step : β → Action Unit) : Action Unit :=
  match items with
  | [] => done ()
  | item :: rest => (step item).bind fun _ => forEach rest step

/-- Do an action and answer with its outcome, whatever it is. -/
def attempt : Action α → Action (Except Fault α)
  | done value => done (.ok value)
  | fail fault => done (.error fault)
  | read next => read fun store => (next store).attempt
  | write change next => write change next.attempt

@[simp] theorem run_done (value : α) (store : Store) :
    (done value).run store = (.ok value, store) := rfl

@[simp] theorem run_fail (fault : Fault) (store : Store) :
    (fail fault : Action α).run store = (.error fault, store) := rfl

@[simp] theorem run_write (change : Change) (next : Action α) (store : Store) :
    (write change next).run store = next.run (change.apply store) := rfl

/-- Running two actions in turn is running the second where the first came to an answer. -/
theorem run_bind (action : Action α) (next : α → Action β) (store : Store) :
    (action.bind next).run store =
      match action.run store with
      | (.ok value, after) => (next value).run after
      | (.error fault, after) => (.error fault, after) := by
  induction action generalizing store with
  | done value => rfl
  | fail fault => rfl
  | read first ih => exact ih store store
  | write change rest ih => exact ih (change.apply store)

end Action

end Deferred
