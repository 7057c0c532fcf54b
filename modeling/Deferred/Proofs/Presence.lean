import Deferred.Proofs.Querying

/-!
# Asking for a component

A world can be asked whether an entity has a component of a class, which one it is, and which
entities have one.  For every class but that of absence the answers agree: the component is the last
one of the class that was put on the entity.  Absence is different, since what answers with a
component answers with absence where there is none.
-/

namespace Deferred

open Store Action

variable {store : Store} {query place : Ref} {id component : ClassId} {content : World}
  {bound : Nat}

theorem World.mem_found {entities : List Entity} {pair : Entity × Value} :
    pair ∈ content.found component entities ↔
      pair.1 ∈ entities ∧ content.found? pair.1.index component = some pair.2 := by
  obtain ⟨entity, value⟩ := pair
  simp only [World.found, List.mem_filterMap, Option.map_eq_some_iff, Prod.mk.injEq]
  constructor
  · rintro ⟨other, isIn, held, isHeld, rfl, rfl⟩
    exact ⟨isIn, isHeld⟩
  · rintro ⟨isIn, isHeld⟩
    exact ⟨entity, isIn, value, isHeld, rfl, rfl⟩

namespace Action

/-- The complaint of a query about an entity that has no component of its class. -/
def complain (call : Caller) (query entity : Value) : Action Value :=
  Action.store.bind fun store => (getAttribute call query "_component").bind fun component =>
    (nameInMessage call component).bind fun name =>
      fail (.componentMissing (store.describe entity) name)

theorem run_complain_ne_ok (call : Caller) (query entity answer : Value) (before after : Store) :
    (complain call query entity).run before ≠ (.ok answer, after) := by
  intro runs
  obtain ⟨_, _, -, runs⟩ := run_bind_eq_ok.mp runs
  obtain ⟨_, _, -, runs⟩ := run_bind_eq_ok.mp runs
  obtain ⟨_, _, -, runs⟩ := run_bind_eq_ok.mp runs
  cases runs

/-- A query that is asked about an entity asks its world. -/
theorem run_queryMethod_get (asks : store.Asks query id place component)
    (holds : store.world? place = some content) (entity : Entity) (depth : Nat) :
    (hostMethod (Action.machine (depth + 2)) ClassId.query "get"
        [.object ClassId.query query, entity.toValue]).run store =
      ((content.found? entity.index component).elim
        (complain (Action.machine (depth + 2)).call (.object ClassId.query query) entity.toValue)
        done).run (Change.takeMark.apply store) := by
  have grown := Grows.takeMark store
  have holdsNow := (Moves.of_grows grown).world? holds
  have asksNow := asks.of_moves holds (.of_grows grown)
  have method : (methodOfPart (Action.machine (depth + 2)).call (.object ClassId.query query)
      "_world" "get").run store = _ :=
    (run_bind_of_ok asks.run_getAttribute.1 _).trans
      (run_getAttribute_world worldMethod_get asks.intact asks.isWorld holds asks.get)
  refine (run_bind_of_ok method _).trans ?_
  refine (run_bind_of_ok asksNow.run_getAttribute.2 _).trans ?_
  refine (run_bind_of_ok (run_call_get holdsNow entity component depth _) _).trans ?_
  rw [World.found?]
  cases content.component? entity.index component with
  | none => rfl
  | some value => cases value <;> rfl

/-! ## The answers -/

/-- The ways of asking a world what an entity has of a class agree about what this is, if anything. -/
structure Answers (bound : Nat) (store : Store) (query : Ref) (id : ClassId) (place : Ref)
    (component : ClassId) (entity : Entity) (held : Option Value) : Prop where
  contains : (hostMethod (Action.machine bound) ClassId.world "contains"
      [.object id place, entity.toValue, .cls component]).run store =
    (.ok (.bool held.isSome), store)
  get : (hostMethod (Action.machine bound) ClassId.world "get"
      [.object id place, entity.toValue, .cls component]).run store =
    (.ok (held.getD .absent), store)
  /-- What is there is never answered by absence. -/
  present : held ≠ some .absent
  returns : ∀ answer, (∃ after, (hostMethod (Action.machine bound) ClassId.query "get"
      [.object ClassId.query query, entity.toValue]).run store = (.ok answer, after)) ↔
    held = some answer
  items : ∃ made items after,
    (hostMethod (Action.machine bound) ClassId.query "items" [.object ClassId.query query]).run
        store = (.ok (.object ClassId.generator store.cells.size), made) ∧
      (itemsOf (Action.machine bound) (.object ClassId.generator store.cells.size)).run made =
        (.ok items, after) ∧
      ∃ pairs, items.Forall₂ Value.IsPair pairs ∧
        ∀ answer, (∃ pair ∈ pairs, pair.1.index = entity.index ∧ pair.2 = answer) ↔
          held = some answer

/-- **The ways of asking for a component agree.**  In every state of a world since it was made, for
every entity and every class but that of absence, they tell of the same component or of none, and it
is the last one of the class that was put on the entity while it was live. -/
theorem exists_answers {origin : Store} {changes : List Change}
    (made : origin.world? place = some {})
    (holds : (origin.replay changes).world? place = some content)
    (asks : (origin.replay changes).Asks query id place component)
    (isOther : component ≠ ClassId.none) (enough : content.entities.length + 3 ≤ bound)
    (entity : Entity) :
    ∃ held, Answers bound (origin.replay changes) query id place component entity held ∧
      ∀ value, held = some value ↔
        value.classId = component ∧ LastInserted place origin changes entity.index value := by
  have isLast : ∀ value, content.component? entity.index component = some value ↔
      value.classId = component ∧ LastInserted place origin changes entity.index value :=
    fun value => component?_replay_iff made holds
  have isThere : content.component? entity.index component ≠ some .absent := by
    intro isAbsent
    exact isOther ((isLast .absent).mp isAbsent).1.symm
  have sameFound : content.found? entity.index component =
      content.component? entity.index component := by
    rw [World.found?]
    split
    · rename_i isAbsent
      exact absurd isAbsent isThere
    · rfl
  obtain ⟨depth, rfl⟩ : ∃ depth, bound = depth + 2 := ⟨bound - 2, by omega⟩
  refine ⟨content.component? entity.index component, ⟨?_, ?_, isThere, ?_, ?_⟩, isLast⟩
  · rw [hostMethod_world]
    exact run_worldMethod_contains holds entity component
  · rw [hostMethod_world]
    exact run_worldMethod_get holds entity component
  · intro answer
    rw [run_queryMethod_get asks holds entity depth, sameFound]
    cases content.component? entity.index component with
    | none =>
      constructor
      · rintro ⟨after, runs⟩
        exact absurd runs (run_complain_ne_ok _ _ _ _ _ _)
      · intro isSome
        cases isSome
    | some value =>
      constructor
      · rintro ⟨after, runs⟩
        cases runs
        rfl
      · intro isSome
        cases isSome
        exact ⟨_, rfl⟩
  · obtain ⟨made, items, after, makes, answers, pairs⟩ := exists_run_items asks holds enough
    refine ⟨made, items, after, makes, answers, _, pairs, fun answer => ?_⟩
    rw [← sameFound]
    constructor
    · rintro ⟨pair, isIn, same, rfl⟩
      rw [← same]
      exact (World.mem_found.mp isIn).2
    · intro isFound
      have isLive := World.isLive_of_component? (World.found?_eq_some.mp isFound).1
      obtain ⟨handle, isIn, same⟩ := World.isLive_iff.mp isLive
      exact ⟨(handle, answer), World.mem_found.mpr ⟨isIn, same ▸ isFound⟩, same, rfl⟩

/-- A world with an entity on which absence itself was put. -/
def absenceStore : Store :=
  Store.replay { cells := #[{ object := .world {} }] } [.reserve 0, .insert 0 0 .absent]

example :
    let ask := fun name => ((hostMethod (Action.machine 0) ClassId.world name
      [.object ClassId.world 0, (Entity.mk 0 1).toValue, .cls ClassId.none]).run absenceStore).1
    ask "contains" = .ok (.bool true) ∧ ask "get" = .ok .absent := ⟨rfl, rfl⟩

end Action

end Deferred
