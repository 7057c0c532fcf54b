import Deferred.Proofs.Handles
import Deferred.Proofs.Worlds

/-!
# Asking a world

The methods of a world look at what the world holds at the moment.  A handle stands for the live
entity of its number, whichever world or object it was made by, and a component is found under the
class that it is asked for by.
-/

namespace Deferred

open Store Action

/-! ## Handles and classes as keys -/

/-- Handles are equal when their numbers are. -/
theorem Store.equal_toValue (store : Store) (first second : Entity) :
    store.equal first.toValue second.toValue = (first.index == second.index) := by
  rw [equal, depthBound]
  change ((Value.same (.ofInt first.index) (.ofInt second.index) ||
    Number.equal (.whole first.index) (.whole second.index)) && true) = _
  have byNumber : Number.equal (.whole first.index) (.whole second.index) =
      (first.index == second.index) := by
    change (some (compare first.index second.index) == some .eq) = _
    rw [Bool.eq_iff_iff]
    simp
  rw [byNumber, Value.ofInt, Value.ofInt, Value.same]
  simp

namespace World

variable {world : World}

theorem isLive_iff {index : Int} :
    world.isLive index = true ↔ ∃ entity ∈ world.entities, entity.index = index := by
  rw [isLive, row?, List.find?_isSome]
  constructor
  · rintro ⟨row, isRow, isIndex⟩
    exact ⟨row.handle, List.mem_map_of_mem isRow, of_decide_eq_true isIndex⟩
  · rintro ⟨entity, isIn, isIndex⟩
    obtain ⟨row, isRow, rfl⟩ := List.mem_map.mp isIn
    exact ⟨row, isRow, decide_eq_true isIndex⟩

theorem component?_of_not_isLive {index : Int} (isGone : world.isLive index = false)
    (id : ClassId) : world.component? index id = none := by
  rw [Option.eq_none_iff_forall_ne_some]
  intro value holds
  rw [isLive_of_component? holds] at isGone
  cases isGone

end World

namespace Action

variable {store : Store} {call : Caller} {id : ClassId} {place : Ref} {content : World}

/-- A handle stands for the live entity of its number. -/
theorem run_liveIndex? (content : World) (entity : Entity) :
    (liveIndex? content entity.toValue).run store =
      (.ok (if content.isLive entity.index then some entity.index else none), store) := by
  have isKey : store.isKey entity.toValue = true := rfl
  have finds : (content.entities.find? fun handle => store.equal handle.toValue entity.toValue).map
      Entity.index = if content.isLive entity.index then some entity.index else none := by
    simp only [equal_toValue]
    cases isFound : content.entities.find? fun handle => handle.index == entity.index with
    | none =>
      have isGone : content.isLive entity.index = false := by
        rw [← Bool.not_eq_true, World.isLive_iff]
        rintro ⟨other, isIn, same⟩
        exact List.find?_eq_none.mp isFound other isIn (beq_iff_eq.mpr same)
      rw [isGone]
      rfl
    | some handle =>
      have same : handle.index = entity.index := by simpa using List.find?_some isFound
      have isLive : content.isLive entity.index = true :=
        World.isLive_iff.mpr ⟨handle, List.mem_of_find?_eq_some isFound, same⟩
      rw [isLive, Option.map_some, same]
      rfl
  rw [liveIndex?, bind_eq, run_store_bind, if_pos isKey, finds]
  rfl

theorem run_classKey? (component : ClassId) :
    (classKey? (.cls component)).run store = (.ok (some component), store) := rfl

/-- A component is found under its class; what is not there is answered by its absence. -/
theorem run_componentOf (content : World) (entity : Entity) (component : ClassId) :
    (componentOf content entity.toValue (.cls component)).run store =
      (.ok ((content.component? entity.index component).getD .absent), store) := by
  rw [componentOf, bind_eq, run_bind_of_ok (run_liveIndex? content entity)]
  cases isLive : content.isLive entity.index with
  | true => rfl
  | false =>
    rw [World.component?_of_not_isLive isLive]
    rfl

theorem run_hasComponent (content : World) (entity : Entity) (component : ClassId) :
    (hasComponent content entity.toValue (.cls component)).run store =
      (.ok (content.component? entity.index component).isSome, store) := by
  rw [hasComponent, bind_eq, run_bind_of_ok (run_liveIndex? content entity), bind_eq,
    run_bind_of_ok (run_classKey? component)]
  cases isLive : content.isLive entity.index with
  | true => rfl
  | false =>
    rw [World.component?_of_not_isLive isLive]
    rfl

/-! ## Methods of a world -/

theorem hostMethod_world (machine : Machine) (name : String) (arguments : List Value) :
    hostMethod machine ClassId.world name arguments =
      worldMethod machine.call name arguments := rfl

theorem run_worldAt (holds : store.world? place = some content) :
    (worldAt (.object id place)).run store = (.ok (place, content), store) := by
  simp [worldAt, worldOf?, objectOf?, world?_eq_some.mp holds]

theorem run_worldMethod_get (holds : store.world? place = some content) (entity : Entity)
    (component : ClassId) :
    (worldMethod call "get" [.object id place, entity.toValue, .cls component]).run store =
      (.ok ((content.component? entity.index component).getD .absent), store) :=
  (run_bind_of_ok (run_worldAt holds) _).trans (run_componentOf content entity component)

theorem run_worldMethod_contains (holds : store.world? place = some content) (entity : Entity)
    (component : ClassId) :
    (worldMethod call "contains" [.object id place, entity.toValue, .cls component]).run store =
      (.ok (.bool (content.component? entity.index component).isSome), store) :=
  (run_bind_of_ok (run_worldAt holds) _).trans
    (run_bind_of_ok (run_hasComponent content entity component) _)

/-- The entities are given out as they are live at the moment, in their order. -/
theorem run_worldMethod_entities (holds : store.world? place = some content) :
    (worldMethod call "entities" [.object id place]).run store =
      (.ok (.object ClassId.listIterator store.cells.size),
        (Change.allocate (.iteration (.items (content.entities.map Entity.toValue))) []).apply
          store) :=
  run_bind_of_ok (run_worldAt holds) _

/-- The next handle is given out, and nothing else is done. -/
theorem run_worldMethod_reserve (holds : store.world? place = some content) :
    (worldMethod call "reserve_entity" [.object id place]).run store =
        (.ok (content.nextHandle store.nextMark).toValue, (Change.reserve place).apply store) ∧
      (worldMethod call "reserve_entity" [.object id place]).changes store = [.reserve place] := by
  have reserves : worldMethod call "reserve_entity" [.object id place] =
      (worldAt (.object id place)).bind fun found => Action.store.bind fun store =>
        (perform (.reserve found.1)).bind fun _ =>
          done (found.2.nextHandle store.nextMark).toValue := rfl
  have asks : (worldAt (.object id place)).changes store = [] := by
    simp [worldAt, Action.store, worldOf?, objectOf?, world?_eq_some.mp holds]
  rw [reserves, run_bind_of_ok (run_worldAt holds), changes_bind_of_ok (run_worldAt holds), asks]
  exact ⟨rfl, rfl⟩

/-! ## Calling the methods -/

/-- A name is the one of a method that every world has. -/
structure WorldMethod (name : String) (parameters : List String) : Prop where
  found : ∀ id, id = ClassId.world ∨ id = ClassId.localWorld →
    ({} : Store).find id name =
      some (.member ClassId.world name (.method (parameters.map CallParameter.plain)))
  takes : ClassId.world.members.lookup name =
    some (.method (parameters.map CallParameter.plain))
  free : name ∉ answeredNames ∧ name ≠ "__class__"
  /-- What a world shows of what it holds is no method. -/
  notPart : name ≠ "_next_index"
  notLate : ∀ (store : Store) (value : Value) (content : World),
    lateObjectAttribute? store value (.world content) name = none

theorem worldMethod_get : WorldMethod "get" ["entity", "component"] where
  found id isWorld := by rcases isWorld with rfl | rfl <;> rfl
  takes := rfl
  free := by decide
  notPart := by decide
  notLate _ _ _ := rfl

theorem worldMethod_contains : WorldMethod "contains" ["entity", "component"] where
  found id isWorld := by rcases isWorld with rfl | rfl <;> rfl
  takes := rfl
  free := by decide
  notPart := by decide
  notLate _ _ _ := rfl

theorem worldMethod_entities : WorldMethod "entities" [] where
  found id isWorld := by rcases isWorld with rfl | rfl <;> rfl
  takes := rfl
  free := by decide
  notPart := by decide
  notLate _ _ _ := rfl

variable {name : String} {parameters : List String}

theorem mem_hostClasses_of_isWorld (isWorld : id = ClassId.world ∨ id = ClassId.localWorld) :
    id ∈ hostClasses ∧ ({} : Store).find id "__getattribute__" =
      some (.member ClassId.object "__getattribute__" .other) := by
  rcases isWorld with rfl | rfl <;> exact ⟨by decide, rfl⟩

/-- A world has the method bound to itself, unless something was put over it. -/
theorem run_getAttribute_world (isMethod : WorldMethod name parameters) (intact : store.Intact)
    (isWorld : id = ClassId.world ∨ id = ClassId.localWorld)
    (holds : store.world? place = some content)
    (own : store.ownAttribute? (.object id place) name = none) :
    (getAttribute call (.object id place) name).run store =
      (.ok (.bound (.object id place) (.hostMethod ClassId.world name) store.nextMark),
        Change.takeMark.apply store) := by
  obtain ⟨isHost, isRoot⟩ := mem_hostClasses_of_isWorld isWorld
  have isMember := isMethod.found id isWorld
  have isThere := (intact.find_eq isHost (by rw [isKept, isMember]; rfl)).trans isMember
  have stands := world?_eq_some.mp holds
  refine run_getAttribute_member isMethod.free.1 (special?_of_intact intact isHost isRoot) isThere
    rfl isMethod.free.2 own ?_ fun found isFound => ?_
  · simp [partOf?, objectOf?, stands, isMethod.notPart]
  · obtain rfl := Option.some.inj (stands.symm.trans isFound)
    exact isMethod.notLate store _ content

/-- Calling the bound method does what the host does, two calls further in. -/
theorem run_call_world (isMethod : WorldMethod name parameters) {given : List Value}
    (asMany : parameters.length = given.length) (bound : Nat) (mark : Mark) :
    ((Action.machine (bound + 2)).call
        (.bound (.object id place) (.hostMethod ClassId.world name) mark) (.ofList given)).run
      store = (worldMethod (Action.machine bound).call name (.object id place :: given)).run store :=
  run_callMember isMethod.takes rfl asMany

/-- Calling the bound method `get` asks for a component. -/
theorem run_call_get (holds : store.world? place = some content) (entity : Entity)
    (component : ClassId) (bound : Nat) (mark : Mark) :
    ((Action.machine (bound + 2)).call
        (.bound (.object id place) (.hostMethod ClassId.world "get") mark)
        (.ofList [entity.toValue, .cls component])).run store =
      (.ok ((content.component? entity.index component).getD .absent), store) :=
  (run_call_world worldMethod_get rfl bound mark).trans
    (run_worldMethod_get holds entity component)

theorem run_send_world (isMethod : WorldMethod name parameters) (intact : store.Intact)
    (isWorld : id = ClassId.world ∨ id = ClassId.localWorld)
    (holds : store.world? place = some content)
    (own : store.ownAttribute? (.object id place) name = none) {given : List Value}
    (asMany : parameters.length = given.length) (bound : Nat) :
    (send (Action.machine (bound + 2)).call (.object id place) name (.ofList given)).run store =
      (worldMethod (Action.machine bound).call name (.object id place :: given)).run
        (Change.takeMark.apply store) := by
  rw [send, bind_eq, run_bind_of_ok (run_getAttribute_world isMethod intact isWorld holds own)]
  exact run_call_world isMethod asMany bound _

end Action

end Deferred
