import Deferred.Proofs.Bindings
import Deferred.Proofs.Run
import Deferred.Store.Attribute

/-!
# Stores that only grew

Most of what running code does to a store is to put new objects at its end and to give out marks.
Whatever was known of an object, of a class or of a name before is known of it afterwards.
-/

namespace Deferred

/-- One store is another one with nothing but new objects and new marks. -/
structure Store.Grows (before after : Store) : Prop where
  cells : ∃ more, after.cells = before.cells ++ more
  marks : before.marks ≤ after.marks
  rest : after = { before with cells := after.cells, marks := after.marks }

namespace Store

variable {before between after : Store}

namespace Grows

theorem refl (store : Store) : store.Grows store where
  cells := ⟨#[], by simp⟩
  marks := Nat.le_refl _
  rest := rfl

theorem trans (first : before.Grows between) (second : between.Grows after) :
    before.Grows after where
  cells := by
    obtain ⟨some, isSome⟩ := first.cells
    obtain ⟨more, isMore⟩ := second.cells
    exact ⟨some ++ more, by rw [isMore, isSome, Array.append_assoc]⟩
  marks := Nat.le_trans first.marks second.marks
  rest := by
    have same := first.rest
    rw [second.rest, same]

theorem allocate (store : Store) (object : Object) (attributes : Bindings) :
    store.Grows ((Change.allocate object attributes).apply store) where
  cells := ⟨#[⟨object, attributes⟩], rfl⟩
  marks := Nat.le_refl _
  rest := rfl

theorem takeMark (store : Store) : store.Grows (Change.takeMark.apply store) where
  cells := ⟨#[], by simp [Change.apply]⟩
  marks := Nat.le_succ _
  rest := rfl

theorem useMarks (store : Store) {marks : Nat} (more : store.marks ≤ marks) :
    store.Grows { store with marks } where
  cells := ⟨#[], by simp⟩
  marks := more
  rest := rfl

theorem size_le (grows : before.Grows after) : before.cells.size ≤ after.cells.size := by
  obtain ⟨more, isMore⟩ := grows.cells
  rw [isMore, Array.size_append]
  exact Nat.le_add_right _ _

/-! ## Objects -/

theorem cell?_eq (grows : before.Grows after) {place : Ref} (isOld : place < before.cells.size) :
    after.cell? place = before.cell? place := by
  obtain ⟨more, isMore⟩ := grows.cells
  rw [Store.cell?, Store.cell?, isMore, Array.getElem?_append_left isOld]

theorem cell? (grows : before.Grows after) {place : Ref} {cell : Cell}
    (stands : before.cell? place = some cell) : after.cell? place = some cell := by
  have isOld : place < before.cells.size := (Array.getElem?_eq_some_iff.mp stands).1
  rw [grows.cell?_eq isOld, stands]

theorem object? (grows : before.Grows after) {place : Ref} {object : Object}
    (stands : before.object? place = some object) : after.object? place = some object := by
  rw [Store.object?, Option.map_eq_some_iff] at stands
  obtain ⟨cell, isCell, isObject⟩ := stands
  rw [Store.object?, grows.cell? isCell, Option.map_some, isObject]

theorem objectOf? (grows : before.Grows after) {value : Value} {object : Object}
    (stands : before.objectOf? value = some object) : after.objectOf? value = some object := by
  cases value with
  | object id place => exact grows.object? stands
  | _ => simp [Store.objectOf?] at stands

theorem functionOf? (grows : before.Grows after) {value : Value} {function : FunctionObject}
    (stands : before.functionOf? value = some function) :
    after.functionOf? value = some function := by
  rw [Store.functionOf?] at stands ⊢
  cases isObject : before.objectOf? value with
  | none => simp [isObject] at stands
  | some object =>
    rw [grows.objectOf? isObject]
    rwa [isObject] at stands

theorem name? (grows : before.Grows after) {space : Ref} {name : String} {value : Value}
    (means : Entries.get? (before.names space) name = some value) :
    Entries.get? (after.names space) name = some value := by
  rw [Store.names] at means ⊢
  cases isObject : before.object? space with
  | none => simp [isObject, Entries.get?] at means
  | some object =>
    rw [grows.object? isObject]
    rwa [isObject] at means

theorem names_eq (grows : before.Grows after) {space : Ref} (isOld : space < before.cells.size) :
    after.names space = before.names space := by
  rw [Store.names, Store.names, Store.object?, Store.object?, grows.cell?_eq isOld]

theorem attributesOf_eq (grows : before.Grows after) {id : ClassId} {place : Ref}
    (isOld : place < before.cells.size) :
    after.attributesOf (.object id place) = before.attributesOf (.object id place) := by
  simp only [Store.attributesOf, grows.cell?_eq isOld]

theorem ownAttribute?_eq (grows : before.Grows after) {id : ClassId} {place : Ref}
    (isOld : place < before.cells.size) (name : String) :
    after.ownAttribute? (.object id place) name = before.ownAttribute? (.object id place) name := by
  rw [Store.ownAttribute?, Store.ownAttribute?, grows.attributesOf_eq isOld]

/-! ## Classes -/

theorem generated_eq (grows : before.Grows after) : after.generated = before.generated := by
  rw [grows.rest]

theorem attributes_eq (grows : before.Grows after) : after.attributes = before.attributes := by
  rw [grows.rest]

theorem removed_eq (grows : before.Grows after) : after.removed = before.removed := by
  rw [grows.rest]

theorem modules_eq (grows : before.Grows after) : after.modules = before.modules := by
  rw [grows.rest]

theorem classAttribute?_eq (grows : before.Grows after) (id : ClassId) (name : String) :
    after.classAttribute? id name = before.classAttribute? id name := by
  rw [Store.classAttribute?, Store.classAttribute?, grows.attributes_eq]

theorem ancestors_eq (grows : before.Grows after) (id : ClassId) :
    after.ancestors id = before.ancestors id := by
  rw [Store.ancestors, Store.ancestors, grows.generated_eq]

theorem recordFields?_eq (grows : before.Grows after) (id : ClassId) :
    after.recordFields? id = before.recordFields? id := by
  rw [Store.recordFields?, Store.recordFields?, grows.generated_eq]

theorem find_eq (grows : before.Grows after) (id : ClassId) (name : String) :
    after.find id name = before.find id name := by
  rw [grows.rest]
  rfl

end Grows

/-- An object that was put into a store stands at its end. -/
theorem object?_allocate (store : Store) (object : Object) (attributes : Bindings) :
    ((Change.allocate object attributes).apply store).object? store.cells.size = some object := by
  simp [Change.apply, Store.object?, Store.cell?]

theorem attributesOf_allocate (store : Store) (id : ClassId) (object : Object)
    (attributes : Bindings) :
    ((Change.allocate object attributes).apply store).attributesOf (.object id store.cells.size) =
      attributes := by
  simp [Change.apply, Store.attributesOf, Store.cell?]

theorem size_allocate (store : Store) (object : Object) (attributes : Bindings) :
    ((Change.allocate object attributes).apply store).cells.size = store.cells.size + 1 := by
  simp [Change.apply]

/-- What stands somewhere in a store has its place before the end. -/
theorem lt_size_of_object? {store : Store} {place : Ref} {object : Object}
    (stands : store.object? place = some object) : place < store.cells.size := by
  rw [Store.object?, Option.map_eq_some_iff] at stands
  obtain ⟨cell, isCell, -⟩ := stands
  exact (Array.getElem?_eq_some_iff.mp isCell).1

end Store

/-! ## Actions that only add -/

/-- An action that does nothing to a store but put objects at its end and give out marks. -/
def Action.OnlyAdds {α : Type} (action : Action α) : Prop :=
  ∀ store : Store, store.Grows (action.run store).2

namespace Action.OnlyAdds

variable {α β : Type}

theorem grows {action : Action α} (adds : action.OnlyAdds) {before after : Store}
    {outcome : Except Fault α} (runs : action.run before = (outcome, after)) :
    before.Grows after := by
  have grows := adds before
  rwa [runs] at grows

theorem done (value : α) : (Action.done value).OnlyAdds := Store.Grows.refl

theorem fail (fault : Fault) : (Action.fail fault : Action α).OnlyAdds := Store.Grows.refl

theorem allocate (id : ClassId) (object : Object) (attributes : Bindings) :
    (Action.allocate id object attributes).OnlyAdds := fun store =>
  Store.Grows.allocate store object attributes

theorem fresh (make : Mark → Value) : (Action.fresh make).OnlyAdds := Store.Grows.takeMark

theorem read {next : Store → Action α} (each : ∀ store, (next store).OnlyAdds) :
    (Action.read next).OnlyAdds := fun store => each store store

theorem bind {action : Action α} {next : α → Action β} (first : action.OnlyAdds)
    (second : ∀ value, (next value).OnlyAdds) : (action.bind next).OnlyAdds := by
  intro store
  have grows := first store
  rw [run_bind]
  cases runs : action.run store with
  | mk outcome between =>
    rw [runs] at grows
    cases outcome with
    | ok value => exact grows.trans (second value between)
    | error fault => exact grows

theorem store_bind {next : Store → Action α} (each : ∀ store, (next store).OnlyAdds) :
    (Action.store.bind next).OnlyAdds := read each

theorem orFail (fault : Fault) (answer : Option α) : (Action.orFail fault answer).OnlyAdds := by
  cases answer with
  | none => exact fail fault
  | some value => exact done value

end Action.OnlyAdds

/-- An action that only adds where it starts at one store, whether or not it comes to an answer. -/
def Action.AddsTo {α : Type} (store : Store) (action : Action α) : Prop :=
  store.Grows (action.run store).2

namespace Action.AddsTo

variable {α β : Type} {store : Store}

theorem grows {action : Action α} (adds : action.AddsTo store) {after : Store}
    {outcome : Except Fault α} (runs : action.run store = (outcome, after)) :
    store.Grows after := by
  rwa [AddsTo, runs] at adds

/-- What follows an action has to add to the store that the action leads to, and only there. -/
theorem bind {action : Action α} {next : α → Action β} (first : action.AddsTo store)
    (second : ∀ value between, action.run store = (.ok value, between) →
      (next value).AddsTo between) : (action.bind next).AddsTo store := by
  rw [AddsTo, run_bind]
  cases runs : action.run store with
  | mk outcome between =>
    have grown := first.grows runs
    cases outcome with
    | ok value => exact grown.trans (second value between runs)
    | error fault => exact grown

theorem store_bind {next : Store → Action α} (adds : (next store).AddsTo store) :
    (Action.store.bind next).AddsTo store := adds

end Action.AddsTo

end Deferred
