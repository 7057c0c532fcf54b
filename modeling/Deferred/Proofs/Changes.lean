import Deferred.Proofs.Run
import Deferred.Store.Change

/-!
# The changes of a run

A run changes the store step by step.  The changes it makes, in their order, are a history of it:
replaying the first of them leads to a store that the run went through, replaying all of them to the
store at its end.  A fault cuts the history off; what was done before it stays in it.
-/

namespace Deferred

/-- Make changes one after the other. -/
def Store.replay (store : Store) (changes : List Change) : Store :=
  changes.foldl (fun reached change => change.apply reached) store

namespace Store

@[simp] theorem replay_nil (store : Store) : store.replay [] = store := rfl

@[simp] theorem replay_cons (store : Store) (change : Change) (rest : List Change) :
    store.replay (change :: rest) = (change.apply store).replay rest := rfl

theorem replay_append (store : Store) (first second : List Change) :
    store.replay (first ++ second) = (store.replay first).replay second :=
  List.foldl_append

end Store

namespace Action

variable {α β : Type}

/-- The changes that a run makes, in order. -/
def changes : Action α → Store → List Change
  | done _, _ => []
  | fail _, _ => []
  | read next, store => (next store).changes store
  | write change next, store => change :: next.changes (change.apply store)

/-- The store after the first changes of a run. -/
def reached (action : Action α) (before : Store) (moment : Nat) : Store :=
  before.replay ((action.changes before).take moment)

/-- The changes of a run from one moment on. -/
def stretch (action : Action α) (before : Store) (moment length : Nat) : List Change :=
  ((action.changes before).drop moment).take length

@[simp] theorem changes_done (value : α) (store : Store) : (done value).changes store = [] := rfl

@[simp] theorem changes_fail (fault : Fault) (store : Store) :
    (fail fault : Action α).changes store = [] := rfl

@[simp] theorem changes_read (next : Store → Action α) (store : Store) :
    (read next).changes store = (next store).changes store := rfl

@[simp] theorem changes_write (change : Change) (next : Action α) (store : Store) :
    (write change next).changes store = change :: next.changes (change.apply store) := rfl

@[simp] theorem changes_perform (change : Change) (store : Store) :
    (perform change).changes store = [change] := rfl

/-- Replaying the changes of a run leads to where the run ends. -/
theorem replay_changes (action : Action α) (before : Store) :
    before.replay (action.changes before) = (action.run before).2 := by
  induction action generalizing before with
  | done value => rfl
  | fail fault => rfl
  | read next ih => exact ih before before
  | write change next ih => exact ih (change.apply before)

/-- Two actions in turn make the changes of the first and, where it came to an answer, those of the
second. -/
theorem changes_bind (action : Action α) (next : α → Action β) (before : Store) :
    (action.bind next).changes before =
      action.changes before ++
        match action.run before with
        | (.ok value, after) => (next value).changes after
        | (.error _, _) => [] := by
  induction action generalizing before with
  | done value => rfl
  | fail fault => rfl
  | read first ih => exact ih before before
  | write change rest ih =>
    rw [write_bind, changes_write, ih, changes_write, run_write]
    rfl

theorem changes_bind_of_ok {action : Action α} {before after : Store} {value : α}
    (runs : action.run before = (.ok value, after)) (next : α → Action β) :
    (action.bind next).changes before = action.changes before ++ (next value).changes after := by
  rw [changes_bind, runs]

theorem changes_bind_of_error {action : Action α} {before after : Store} {fault : Fault}
    (runs : action.run before = (.error fault, after)) (next : α → Action β) :
    (action.bind next).changes before = action.changes before := by
  rw [changes_bind, runs, List.append_nil]

@[simp] theorem reached_zero (action : Action α) (before : Store) :
    action.reached before 0 = before := rfl

/-- A stretch of a run leads from the moment it begins at to the one it ends at. -/
theorem replay_stretch (action : Action α) (before : Store) (moment length : Nat) :
    (action.reached before moment).replay (action.stretch before moment length) =
      action.reached before (moment + length) := by
  rw [reached, stretch, reached, List.take_add, Store.replay_append]

/-- Where the changes of a run end with those of another one, so do the stores it goes through. -/
theorem reached_of_changes_eq {action : Action α} {rest : Action β} {before between : Store}
    {earlier : List Change} (changed : action.changes before = earlier ++ rest.changes between)
    (leads : before.replay earlier = between) (moment : Nat) :
    action.reached before (earlier.length + moment) = rest.reached between moment := by
  rw [reached, reached, changed, List.take_length_add_append, Store.replay_append, leads]

end Action

/-! ## What stands at a place -/

namespace Store

variable {store : Store} {place other : Ref}

theorem cell?_modifyCell_of_ne (change : Cell → Cell) (apart : other ≠ place) :
    (store.modifyCell place change).cell? other = store.cell? other := by
  simp only [Store.cell?, modifyCell, Array.getElem?_modify, Ne.symm apart, if_false]

theorem cell?_modifyCell (change : Cell → Cell) :
    (store.modifyCell place change).cell? place = (store.cell? place).map change := by
  simp [Store.cell?, modifyCell, Array.getElem?_modify]

theorem object?_modifyCell_of_ne (change : Cell → Cell) (apart : other ≠ place) :
    (store.modifyCell place change).object? other = store.object? other := by
  rw [object?, object?, cell?_modifyCell_of_ne change apart]

/-- A change of a cell that leaves its object alone leaves what stands everywhere. -/
theorem object?_modifyCell_of_kept {change : Cell → Cell}
    (kept : ∀ cell, (change cell).object = cell.object) :
    (store.modifyCell place change).object? other = store.object? other := by
  by_cases same : other = place
  · simp [same, object?, cell?_modifyCell, Function.comp_def, kept]
  · exact object?_modifyCell_of_ne change same

theorem object?_modifyObject_of_ne (change : Object → Object) (apart : other ≠ place) :
    (store.modifyObject place change).object? other = store.object? other :=
  object?_modifyCell_of_ne _ apart

theorem object?_modifyObject (change : Object → Object) :
    (store.modifyObject place change).object? place = (store.object? place).map change := by
  simp [object?, modifyObject, cell?_modifyCell, Function.comp_def]

/-- What a change of objects leaves as it is, stands where it stood. -/
theorem object?_modifyObject_of_fixed {object : Object} {change : Object → Object}
    (stands : store.object? place = some object) (fixed : change object = object) :
    (store.modifyObject other change).object? place = some object := by
  by_cases same : place = other
  · rw [← same, object?_modifyObject, stands, Option.map_some, fixed]
  · rw [object?_modifyObject_of_ne _ same, stands]

theorem size_modifyCell (change : Cell → Cell) :
    (store.modifyCell place change).cells.size = store.cells.size := by
  simp [modifyCell]

/-! ## What stands on a class -/

theorem classAttribute?_setClassAttribute (store : Store) (id : ClassId) (name : String)
    (value : Value) :
    ((Change.setClassAttribute id name value).apply store).classAttribute? id name =
      some value := by
  simp [Change.apply, modifyClass, classAttribute?]

theorem classAttribute?_setClassAttribute_of_ne (store : Store) {id other : ClassId}
    {name part : String} (value : Value) (apart : other ≠ id ∨ part ≠ name) :
    ((Change.setClassAttribute id name value).apply store).classAttribute? other part =
      store.classAttribute? other part := by
  simp only [Change.apply, modifyClass, classAttribute?]
  by_cases same : other = id
  · subst same
    have differs : part ≠ name := by simpa using apart
    rw [Entries.get?_put_self, Option.bind_some, Entries.get?_put_of_ne _ value differs]
    cases Entries.get? store.attributes other <;> rfl
  · rw [Entries.get?_put_of_ne _ _ same]

end Store

end Deferred
