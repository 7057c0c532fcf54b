import Deferred.Proofs.Asking

/-!
# Going through a query

A query is gone through by a generator.  When it is asked for the first time it takes the entities
of the world as they are live at that moment; each time it is asked it goes on with those it has not
come to yet, asks the world what each of them holds now, and stops at the first that holds
something.  Asking it moves its own cursor and gives out marks, and leaves the world alone.
-/

namespace Deferred

open Store Action

/-! ## What asking leaves alone -/

/-- Nothing has been done to a store but that cursors have moved and that marks and new objects were
made. -/
structure Store.Moves (before after : Store) : Prop where
  size : before.cells.size ≤ after.cells.size
  attributes : ∀ id place, place < before.cells.size →
    after.attributesOf (.object id place) = before.attributesOf (.object id place)
  objects : ∀ place object, before.object? place = some object →
    (∀ cursor, object ≠ .iteration cursor) → after.object? place = some object
  classes : after.generated = before.generated ∧ after.attributes = before.attributes ∧
    after.removed = before.removed

namespace Store

variable {before between after store : Store} {place other : Ref} {content : World}

namespace Moves

theorem of_grows (grows : before.Grows after) : before.Moves after where
  size := grows.size_le
  attributes _ _ isOld := grows.attributesOf_eq isOld
  objects _ _ stands _ := grows.object? stands
  classes := ⟨grows.generated_eq, grows.attributes_eq, grows.removed_eq⟩

theorem refl (store : Store) : store.Moves store := .of_grows (.refl store)

theorem trans (first : before.Moves between) (second : between.Moves after) :
    before.Moves after where
  size := Nat.le_trans first.size second.size
  attributes id place isOld := by
    rw [second.attributes id place (Nat.lt_of_lt_of_le isOld first.size),
      first.attributes id place isOld]
  objects place object stands isOther :=
    second.objects place object (first.objects place object stands isOther) isOther
  classes := by
    obtain ⟨generated, attributes, removed⟩ := first.classes
    rw [second.classes.1, second.classes.2.1, second.classes.2.2]
    exact ⟨generated, attributes, removed⟩

theorem world? (moves : before.Moves after) (holds : before.world? place = some content) :
    after.world? place = some content :=
  world?_eq_some.mpr (moves.objects place _ (world?_eq_some.mp holds) fun _ => nofun)

end Moves

/-! ## Cursors -/

theorem object?_advance {cursor : Cursor}
    (stands : store.object? place = some (.iteration cursor)) (next : Cursor) :
    ((Change.advance place next).apply store).object? place = some (.iteration next) := by
  rw [Change.apply, object?_modifyObject, stands]
  rfl

theorem object?_advance_of_ne (apart : other ≠ place) (next : Cursor) :
    ((Change.advance place next).apply store).object? other = store.object? other := by
  rw [Change.apply, object?_modifyObject_of_ne _ apart]

/-- A change of what stands somewhere leaves all attributes. -/
theorem attributesOf_modifyObject (change : Object → Object) (id : ClassId) :
    (store.modifyObject place change).attributesOf (.object id other) =
      store.attributesOf (.object id other) := by
  simp only [attributesOf, modifyObject]
  by_cases same : other = place
  · rw [same, cell?_modifyCell]
    cases store.cell? place <;> rfl
  · rw [cell?_modifyCell_of_ne _ same]

theorem Moves.advance (store : Store) (place : Ref) (next : Cursor) :
    store.Moves ((Change.advance place next).apply store) where
  size := Nat.le_of_eq (size_modifyCell _).symm
  attributes id other _ := attributesOf_modifyObject _ id
  objects other object stands isOther := by
    by_cases same : other = place
    · rw [Change.apply, same, object?_modifyObject, ← same, stands, Option.map_some]
      cases object with
      | iteration cursor => exact absurd rfl (isOther cursor)
      | _ => rfl
    · rw [object?_advance_of_ne same, stands]
  classes := ⟨rfl, rfl, rfl⟩

/-- Two stores with the same classes have an untouched host together. -/
theorem Intact.of_classes (intact : before.Intact)
    (same : after.generated = before.generated ∧ after.attributes = before.attributes ∧
      after.removed = before.removed) : after.Intact := by
  obtain ⟨generated, attributes, removed⟩ := same
  have onClass : ∀ id name, after.classAttribute? id name = before.classAttribute? id name := by
    intro id name
    rw [classAttribute?, classAttribute?, attributes]
  constructor
  · intro home name
    rw [generated]
    exact intact.declared home name
  · intro id isHost name kept parent isAbove
    rw [onClass, removed]
    exact intact.unchanged id isHost name kept parent isAbove
  · intro home owner name value
    rw [onClass]
    exact intact.settled home owner name value
  · intro id number
    rw [generated, attributes]
    exact intact.numbered id number

end Store

/-! ## Queries -/

/-- A query asks a world for a component, and nothing was put over the way it does so. -/
structure Store.Asks (store : Store) (query : Ref) (id : ClassId) (place : Ref)
    (component : ClassId) : Prop where
  intact : store.Intact
  isWorld : id = ClassId.world ∨ id = ClassId.localWorld
  world : store.ownAttribute? (.object ClassId.query query) "_world" = some (.object id place)
  component : store.ownAttribute? (.object ClassId.query query) "_component" =
    some (.cls component)
  entities : store.ownAttribute? (.object id place) "entities" = none
  get : store.ownAttribute? (.object id place) "get" = none

namespace Store.Asks

variable {before after store : Store} {query place : Ref} {id component : ClassId}
  {content : World}

theorem lt_size (asks : store.Asks query id place component) : query < store.cells.size := by
  by_contra isNew
  have isNone : store.cell? query = none := Array.getElem?_eq_none (Nat.not_lt.mp isNew)
  have own := asks.world
  rw [ownAttribute?, attributesOf, isNone] at own
  cases own

theorem of_kept (asks : before.Asks query id place component) (intact : after.Intact)
    (ofQuery : ∀ name ∈ ["_world", "_component"],
      after.ownAttribute? (.object ClassId.query query) name =
        before.ownAttribute? (.object ClassId.query query) name)
    (ofWorld : ∀ name ∈ ["entities", "get"],
      after.ownAttribute? (.object id place) name = before.ownAttribute? (.object id place) name) :
    after.Asks query id place component where
  intact := intact
  isWorld := asks.isWorld
  world := (ofQuery _ (by decide)).trans asks.world
  component := (ofQuery _ (by decide)).trans asks.component
  entities := (ofWorld _ (by decide)).trans asks.entities
  get := (ofWorld _ (by decide)).trans asks.get

theorem of_moves (asks : before.Asks query id place component)
    (holds : before.world? place = some content) (moves : before.Moves after) :
    after.Asks query id place component := by
  refine asks.of_kept (asks.intact.of_classes moves.classes) (fun name _ => ?_) fun name _ => ?_
  · rw [ownAttribute?, ownAttribute?, moves.attributes _ _ asks.lt_size]
  · rw [ownAttribute?, ownAttribute?,
      moves.attributes _ _ (lt_size_of_object? (world?_eq_some.mp holds))]

/-- What a query keeps is read as it is. -/
theorem run_getAttribute {call : Caller} (asks : store.Asks query id place component) :
    (getAttribute call (.object ClassId.query query) "_world").run store =
        (.ok (.object id place), store) ∧
      (getAttribute call (.object ClassId.query query) "_component").run store =
        (.ok (.cls component), store) := by
  have isHost : ClassId.query ∈ hostClasses := by decide
  have isRoot : ({} : Store).find ClassId.query "__getattribute__" =
      some (.member ClassId.object "__getattribute__" .other) := rfl
  have plain : special? store (.object ClassId.query query) "__getattribute__" = none :=
    special?_of_intact asks.intact isHost isRoot
  exact ⟨run_getAttribute_own plain (leavesToInstance_of_unknown asks.intact isHost rfl) asks.world,
    run_getAttribute_own plain (leavesToInstance_of_unknown asks.intact isHost rfl) asks.component⟩

end Store.Asks

/-! ## One step of a generator -/

namespace Action

section Steps

variable {machine : Machine} {bound : Nat} {store : Store} {id : ClassId} {place : Ref}
  {query entities item : Value} {rest : List Value}

theorem run_nextWithin_nil (stands : store.object? place = some (.iteration (.items []))) :
    (nextWithin machine (bound + 1) (.object id place)).run store = (.ok none, store) := by
  simp only [nextWithin, bind_eq, run_store_bind, stands]
  rfl

theorem run_nextWithin_cons
    (stands : store.object? place = some (.iteration (.items (item :: rest)))) :
    (nextWithin machine (bound + 1) (.object id place)).run store =
      (.ok (some item), (Change.advance place (.items rest)).apply store) := by
  simp only [nextWithin, bind_eq, run_store_bind, stands]
  rfl

/-- A generator that was not asked before takes the entities of the world. -/
theorem run_nextWithin_query (stands : store.object? place = some (.iteration (.query query))) :
    (nextWithin machine (bound + 1) (.object id place)).run store =
      ((getAttribute machine.call query "_world").bind fun world =>
        (send machine.call world "entities" {}).bind fun started =>
        (iterate machine started).bind fun entities =>
        (perform (.advance place (.running query entities))).bind fun _ =>
          nextWithin machine bound (.object id place)).run
        ((Change.advance place (.items [])).apply store) := by
  simp only [nextWithin, bind_eq, run_store_bind, stands]
  rfl

/-- What a generator does about an entity: it asks the world for the component, and goes on where
there is none. -/
def visit (machine : Machine) (bound : Nat) (generator query entities entity : Value) (place : Ref) :
    Action (Option Value) :=
  (getAttribute machine.call query "_world").bind fun world =>
    (getAttribute machine.call world "get").bind fun get =>
    (getAttribute machine.call query "_component").bind fun component =>
    (machine.call get (.ofList [entity, component])).bind fun value =>
    (perform (.advance place (.running query entities))).bind fun _ =>
      match value with
      | .absent => nextWithin machine bound generator
      | value => (fresh (.tuple [entity, value])).bind fun pair => done (some pair)

theorem run_nextWithin_running
    (stands : store.object? place = some (.iteration (.running query entities))) :
    (nextWithin machine (bound + 1) (.object id place)).run store =
      ((nextWithin machine bound entities).bind fun found =>
        match found with
        | none => done none
        | some entity => visit machine bound (.object id place) query entities entity place).run
        ((Change.advance place (.items [])).apply store) := by
  simp only [nextWithin, bind_eq, run_store_bind, stands]
  rfl

end Steps

end Action

/-! ## Asking a generator -/

namespace World

/-- The component that is found on an entity.  Where the absence of all values was put on it, none
is found. -/
def found? (world : World) (index : Int) (component : ClassId) : Option Value :=
  match world.component? index component with
  | some .absent => none
  | held => held

theorem found?_eq_some {world : World} {index : Int} {component : ClassId} {value : Value} :
    world.found? index component = some value ↔
      world.component? index component = some value ∧ value ≠ .absent := by
  rw [found?]
  split
  · rename_i held
    rw [held]
    constructor
    · intro isFound
      cases isFound
    · rintro ⟨isAbsent, isOther⟩
      exact absurd (Option.some.inj isAbsent).symm isOther
  · rename_i isOther
    refine ⟨fun held => ⟨held, ?_⟩, And.left⟩
    rintro rfl
    exact isOther held

/-- The first of some entities on which a component of a class is found, with the component and with
the entities behind it. -/
def nextMatch (world : World) (component : ClassId) :
    List Entity → Option ((Entity × Value) × List Entity)
  | [] => none
  | entity :: rest =>
    match world.found? entity.index component with
    | none => world.nextMatch component rest
    | some value => some ((entity, value), rest)

/-- The entities on which a component of a class is found, with the component, in their order. -/
def found (world : World) (component : ClassId) (entities : List Entity) :
    List (Entity × Value) :=
  entities.filterMap fun entity =>
    (world.found? entity.index component).map fun value => (entity, value)

theorem found_cons {world : World} {component : ClassId} {entity : Entity} {rest : List Entity} :
    world.found component (entity :: rest) =
      match world.found? entity.index component with
      | none => world.found component rest
      | some value => (entity, value) :: world.found component rest := by
  rw [found, List.filterMap_cons, found]
  cases world.found? entity.index component <;> rfl

theorem found_of_nextMatch (world : World) (component : ClassId) (entities : List Entity) :
    world.found component entities =
      match world.nextMatch component entities with
      | none => []
      | some (pair, left) => pair :: world.found component left := by
  induction entities with
  | nil => rfl
  | cons entity rest ih =>
    rw [found_cons, nextMatch]
    cases world.found? entity.index component with
    | none => exact ih
    | some value => rfl

/-- A match is an entity on which a component is found, and what is left stands behind it. -/
theorem nextMatch_eq_some {world : World} {component : ClassId} {entities left : List Entity}
    {pair : Entity × Value} (isNext : world.nextMatch component entities = some (pair, left)) :
    world.found? pair.1.index component = some pair.2 ∧
      (pair.1 :: left).Sublist entities := by
  induction entities with
  | nil => cases isNext
  | cons entity rest ih =>
    rw [nextMatch] at isNext
    cases isFound : world.found? entity.index component with
    | none =>
      rw [isFound] at isNext
      obtain ⟨holds, isBehind⟩ := ih isNext
      exact ⟨holds, isBehind.cons entity⟩
    | some value =>
      rw [isFound] at isNext
      cases isNext
      exact ⟨isFound, .refl _⟩

end World

/-- A value is the pair of an entity and a component. -/
def Value.IsPair (item : Value) (pair : Entity × Value) : Prop :=
  ∃ mark, item = .tuple [pair.1.toValue, pair.2] mark

/-- The entities that a generator has not come to yet. -/
inductive Store.Left (store : Store) (generator query entities : Ref) : List Entity → Prop
  | running {rest : List Entity}
    (runs : store.object? generator = some (.iteration
      (.running (.object ClassId.query query) (.object ClassId.listIterator entities))))
    (waits : store.object? entities = some (.iteration (.items (rest.map Entity.toValue))))
    (apart : entities ≠ generator) : store.Left generator query entities rest
  | ended (ends : store.object? generator = some (.iteration (.items []))) :
    store.Left generator query entities []

theorem Store.Left.of_grows {before after : Store} {generator query entities : Ref}
    {rest : List Entity} (left : before.Left generator query entities rest)
    (grows : before.Grows after) : after.Left generator query entities rest := by
  cases left with
  | running runs waits apart => exact .running (grows.object? runs) (grows.object? waits) apart
  | ended ends => exact .ended (grows.object? ends)

namespace Action

variable {store : Store} {generator query entities place : Ref} {id component : ClassId}
  {content : World} {bound : Nat}

/-- A generator asks the world what an entity holds now. -/
theorem run_visit (asks : store.Asks query id place component)
    (holds : store.world? place = some content) (entity : Entity) (iteration entities : Value)
    (depth bound : Nat) :
    (visit (Action.machine (depth + 2)) bound iteration (.object ClassId.query query) entities
        entity.toValue generator).run store =
      let moved := (Change.advance generator (.running (.object ClassId.query query) entities)).apply
        (Change.takeMark.apply store)
      match content.found? entity.index component with
      | none => (nextWithin (Action.machine (depth + 2)) bound iteration).run moved
      | some value =>
        (.ok (some (.tuple [entity.toValue, value] moved.nextMark)),
          Change.takeMark.apply moved) := by
  have grown := Grows.takeMark store
  have holdsNow := (Moves.of_grows grown).world? holds
  have asksNow := asks.of_moves holds (.of_grows grown)
  rw [visit, run_bind_of_ok asks.run_getAttribute.1,
    run_bind_of_ok (run_getAttribute_world worldMethod_get asks.intact asks.isWorld holds asks.get),
    run_bind_of_ok asksNow.run_getAttribute.2,
    run_bind_of_ok (run_call_get holdsNow entity component depth _), World.found?]
  cases content.component? entity.index component with
  | none => rfl
  | some value => cases value <;> rfl

/-- A generator that has come to an entity asks the world about it, and goes on with the entities
behind it. -/
theorem exists_run_nextWithin_cons (asks : store.Asks query id place component)
    (holds : store.world? place = some content) {entity : Entity} {rest : List Entity}
    (left : store.Left generator query entities (entity :: rest)) (depth bound : Nat) :
    ∃ moved, store.Moves moved ∧ moved.Left generator query entities rest ∧
      (nextWithin (Action.machine (depth + 2)) (bound + 2)
          (.object ClassId.generator generator)).run store =
        match content.found? entity.index component with
        | none => (nextWithin (Action.machine (depth + 2)) (bound + 1)
            (.object ClassId.generator generator)).run moved
        | some value =>
          (.ok (some (.tuple [entity.toValue, value] moved.nextMark)),
            Change.takeMark.apply moved) := by
  cases left with
  | running runs waits apart =>
    have waitsNow := (object?_advance_of_ne apart (.items [])).trans waits
    have paused := (object?_advance_of_ne apart.symm (.items (rest.map Entity.toValue))).trans
      (object?_advance runs (.items []))
    have passed := object?_advance waitsNow (.items (rest.map Entity.toValue))
    have taken := (Moves.advance store generator (.items [])).trans
      (.advance _ entities (.items (rest.map Entity.toValue)))
    rw [run_nextWithin_running runs, run_bind_of_ok (run_nextWithin_cons waitsNow)]
    generalize (Change.advance entities _).apply _ = reached at paused passed taken
    have grown := Grows.takeMark reached
    refine ⟨_, taken.trans ((Moves.of_grows grown).trans (.advance _ generator _)), ?_,
      run_visit (asks.of_moves holds taken) (taken.world? holds) entity _ _ depth (bound + 1)⟩
    exact .running (object?_advance (grown.object? paused) _)
      ((object?_advance_of_ne apart _).trans (grown.object? passed)) apart

/-- A generator that is asked answers with the next match among what it has not come to yet, and has
not come to what is behind it; where there is none it has come to its end. -/
structure Finds (generator query entities : Ref) (content : World) (component : ClassId)
    (rest : List Entity) (store : Store) (answer : Option Value) (after : Store) : Prop where
  moves : store.Moves after
  finds : match content.nextMatch component rest with
    | none => answer = none ∧ after.Left generator query entities []
    | some (pair, left) =>
      (∃ item, answer = some item ∧ item.IsPair pair) ∧ after.Left generator query entities left

theorem exists_run_nextWithin (asks : store.Asks query id place component)
    (holds : store.world? place = some content) {rest : List Entity}
    (left : store.Left generator query entities rest) (enough : rest.length + 2 ≤ bound)
    (depth : Nat) :
    ∃ answer after,
      (nextWithin (Action.machine (depth + 2)) bound (.object ClassId.generator generator)).run
        store = (.ok answer, after) ∧
      Finds generator query entities content component rest store answer after := by
  induction rest generalizing store bound with
  | nil =>
    obtain ⟨bound, rfl⟩ : ∃ less, bound = less + 2 := ⟨bound - 2, by omega⟩
    cases left with
    | ended ends => exact ⟨none, store, run_nextWithin_nil ends, .refl store, rfl, .ended ends⟩
    | running runs waits apart =>
      have waitsNow := (object?_advance_of_ne apart (.items [])).trans waits
      rw [run_nextWithin_running runs, run_bind_of_ok (run_nextWithin_nil waitsNow)]
      exact ⟨none, _, rfl, .advance store generator _, rfl, .ended (object?_advance runs _)⟩
  | cons entity rest ih =>
    obtain ⟨bound, rfl⟩ : ∃ less, bound = less + 2 := ⟨bound - 2, by omega⟩
    have enoughLeft : rest.length + 2 ≤ bound + 1 := by
      rw [List.length_cons] at enough
      omega
    obtain ⟨moved, moves, leftNow, goesOn⟩ := exists_run_nextWithin_cons asks holds left depth bound
    rw [goesOn]
    cases isFound : content.found? entity.index component with
    | none =>
      obtain ⟨answer, after, answers, finds⟩ := ih (asks.of_moves holds moves)
        (moves.world? holds) leftNow enoughLeft
      refine ⟨answer, after, answers, moves.trans finds.moves, ?_⟩
      rw [World.nextMatch, isFound]
      exact finds.finds
    | some value =>
      refine ⟨_, _, rfl, moves.trans (.of_grows (.takeMark moved)), ?_⟩
      rw [World.nextMatch, isFound]
      exact ⟨⟨_, rfl, _, rfl⟩, leftNow.of_grows (.takeMark moved)⟩

/-- An iteration is gone through as it is. -/
theorem run_iterate_iteration {cursor : Cursor} (isStandard : id.isStandard = true)
    (stands : store.object? place = some (.iteration cursor)) (bound : Nat) :
    (iterate (Action.machine (bound + 1)) (.object id place)).run store =
      (.ok (.object id place), store) := by
  have plain : special? store (.object id place) "__iter__" = none := if_pos isStandard
  have unfolds : iterate (Action.machine (bound + 1)) (.object id place) =
      iterateWithin (Action.machine (bound + 1)) (bound + 1) (.object id place) := rfl
  rw [unfolds, iterateWithin, bind_eq, run_store_bind, plain]
  simp only [stands]
  rfl

/-- A world that is asked for its entities lists those that are live. -/
theorem exists_run_send_entities (asks : store.Asks query id place component)
    (holds : store.world? place = some content) (depth : Nat) :
    ∃ listed, store.Grows listed ∧
      listed.object? store.cells.size =
        some (.iteration (.items (content.entities.map Entity.toValue))) ∧
      (send (Action.machine (depth + 2)).call (.object id place) "entities" {}).run store =
        (.ok (.object ClassId.listIterator store.cells.size), listed) := by
  have marked := Grows.takeMark store
  have holdsNow := (Moves.of_grows marked).world? holds
  have sent : (send (Action.machine (depth + 2)).call (.object id place) "entities" {}).run store =
      _ := (run_send_world worldMethod_entities asks.intact asks.isWorld holds asks.entities rfl
        depth).trans (run_worldMethod_entities holdsNow)
  exact ⟨_, marked.trans (.allocate _ _ []), object?_allocate (Change.takeMark.apply store) _ [],
    sent⟩

/-- A generator that is asked for the first time takes the entities that are live. -/
theorem exists_run_nextWithin_query (asks : store.Asks query id place component)
    (holds : store.world? place = some content)
    (starts : store.object? generator =
      some (.iteration (.query (.object ClassId.query query))))
    (enough : content.entities.length + 3 ≤ bound) (depth : Nat) :
    ∃ answer after,
      (nextWithin (Action.machine (depth + 2)) bound (.object ClassId.generator generator)).run
        store = (.ok answer, after) ∧
      Finds generator query store.cells.size content component content.entities store answer
        after := by
  obtain ⟨bound, rfl⟩ : ∃ less, bound = less + 1 := ⟨bound - 1, by omega⟩
  have paused := object?_advance starts (.items [])
  have moves := Moves.advance store generator (.items [])
  have size : ((Change.advance generator (.items [])).apply store).cells.size =
      store.cells.size := size_modifyCell _
  rw [run_nextWithin_query starts]
  generalize (Change.advance generator (.items [])).apply store = asked at paused moves size
  have asksNow := asks.of_moves holds moves
  have holdsNow := moves.world? holds
  obtain ⟨listed, grown, taken, sent⟩ := exists_run_send_entities asksNow holdsNow depth
  rw [run_bind_of_ok asksNow.run_getAttribute.1, run_bind_of_ok sent,
    run_bind_of_ok (run_iterate_iteration rfl taken (depth + 1))]
  rw [size] at taken ⊢
  have apart : store.cells.size ≠ generator := (Nat.ne_of_lt (lt_size_of_object? starts)).symm
  have enoughLeft : content.entities.length + 2 ≤ bound := by omega
  have started : listed.Moves _ := .advance listed generator
    (.running (.object ClassId.query query) (.object ClassId.listIterator store.cells.size))
  have moved := (Moves.of_grows grown).trans started
  obtain ⟨answer, after, answers, finds⟩ := exists_run_nextWithin
    (asksNow.of_moves holdsNow moved) (moved.world? holdsNow)
    (.running (object?_advance (grown.object? paused) _)
      ((object?_advance_of_ne apart _).trans taken) apart) enoughLeft depth
  exact ⟨answer, after, answers, moves.trans (moved.trans finds.moves), finds.finds⟩

/-! ## Going through to the end -/

/-- From one answer on, a generator that is asked to its end gives out all that is found. -/
theorem exists_run_remaining (asks : store.Asks query id place component)
    (holds : store.world? place = some content) {rest : List Entity} {depth : Nat}
    (asked : ∃ answer after,
      (next? (Action.machine (depth + 2)) (.object ClassId.generator generator)).run store =
          (.ok answer, after) ∧
        Finds generator query entities content component rest store answer after)
    (enough : rest.length ≤ depth) (often : rest.length < bound) (sofar : List Value) :
    ∃ items after,
      (remaining (Action.machine (depth + 2)) (.object ClassId.generator generator) bound
        sofar).run store = (.ok (sofar.reverse ++ items), after) ∧
      store.Moves after ∧ items.Forall₂ Value.IsPair (content.found component rest) := by
  induction bound generalizing store rest sofar with
  | zero => exact absurd often (Nat.not_lt_zero _)
  | succ bound ih =>
    obtain ⟨answer, after, answers, moves, finds⟩ := asked
    rw [remaining, bind_eq, run_bind_of_ok answers, World.found_of_nextMatch]
    cases isNext : content.nextMatch component rest with
    | none =>
      rw [isNext] at finds
      obtain ⟨rfl, -⟩ := finds
      exact ⟨[], after, by rw [List.append_nil]; rfl, moves, .nil⟩
    | some found =>
      obtain ⟨pair, left⟩ := found
      rw [isNext] at finds
      obtain ⟨⟨item, rfl, isPair⟩, leftNow⟩ := finds
      have isShorter : left.length < rest.length :=
        (World.nextMatch_eq_some isNext).2.length_le
      have enoughLeft : left.length + 2 ≤ (Action.machine (depth + 2)).bound :=
        Nat.add_le_add_right (by omega : left.length ≤ depth) 2
      have asksNow := asks.of_moves holds moves
      have holdsNow := moves.world? holds
      obtain ⟨items, last, answers, others, pairs⟩ := ih asksNow holdsNow
        (exists_run_nextWithin asksNow holdsNow leftNow enoughLeft depth) (by omega) (by omega)
        (item :: sofar)
      refine ⟨item :: items, last, ?_, moves.trans others, .cons isPair pairs⟩
      rw [List.reverse_cons, List.append_assoc] at answers
      exact answers

theorem run_itemsOf_iteration {cursor : Cursor} (isStandard : id.isStandard = true)
    (isOther : id ≠ ClassId.list) (stands : store.object? place = some (.iteration cursor))
    (bound : Nat) :
    (itemsOf (Action.machine (bound + 1)) (.object id place)).run store =
      (remaining (Action.machine (bound + 1)) (.object id place) (bound + 1) []).run store := by
  have notGiven : givenItems? store (.object id place) = none := if_neg isOther
  rw [itemsOf, bind_eq, run_store_bind, notGiven]
  exact run_bind_of_ok (run_iterate_iteration isStandard stands bound) _

/-- What is left of some items is given out to the end. -/
theorem exists_run_remaining_items {items : List Value}
    (stands : store.object? place = some (.iteration (.items items))) {depth : Nat}
    (enough : items.length < bound) (sofar : List Value) :
    ∃ after, (remaining (Action.machine (depth + 1)) (.object id place) bound sofar).run store =
      (.ok (sofar.reverse ++ items), after) := by
  induction bound generalizing store items sofar with
  | zero => exact absurd enough (Nat.not_lt_zero _)
  | succ bound ih =>
    have isBound : (Action.machine (depth + 1)).bound = depth + 1 := rfl
    rw [remaining, bind_eq, next?, isBound]
    cases items with
    | nil =>
      rw [run_bind_of_ok (run_nextWithin_nil stands), List.append_nil]
      exact ⟨store, rfl⟩
    | cons item rest =>
      rw [run_bind_of_ok (run_nextWithin_cons stands)]
      obtain ⟨after, answers⟩ := ih (object?_advance stands (.items rest))
        (Nat.lt_of_succ_lt_succ enough) (item :: sofar)
      rw [List.reverse_cons, List.append_assoc] at answers
      exact ⟨after, answers⟩

/-- A new generator that is asked to its end gives out all that is found on the live entities. -/
theorem exists_run_itemsOf (asks : store.Asks query id place component)
    (holds : store.world? place = some content)
    (starts : store.object? generator = some (.iteration (.query (.object ClassId.query query))))
    (enough : content.entities.length + 3 ≤ bound) :
    ∃ items after,
      (itemsOf (Action.machine bound) (.object ClassId.generator generator)).run store =
        (.ok items, after) ∧
      store.Moves after ∧
        items.Forall₂ Value.IsPair (content.found component content.entities) := by
  obtain ⟨depth, rfl⟩ : ∃ depth, bound = depth + 2 := ⟨bound - 2, by omega⟩
  rw [run_itemsOf_iteration rfl (by decide) starts (depth + 1)]
  exact exists_run_remaining asks holds
    (exists_run_nextWithin_query asks holds starts enough depth) (by omega) (by omega) []

/-- A query makes a generator that has not been asked for anything. -/
theorem run_hostMethod_items (machine : Machine) (store : Store) (query : Ref) :
    (hostMethod machine ClassId.query "items" [.object ClassId.query query]).run store =
      (.ok (.object ClassId.generator store.cells.size),
        (Change.allocate (.iteration (.query (.object ClassId.query query))) []).apply store) := rfl

/-- A query tells all that is found on the live entities, in their order. -/
theorem exists_run_items (asks : store.Asks query id place component)
    (holds : store.world? place = some content) (enough : content.entities.length + 3 ≤ bound) :
    ∃ made items after,
      (hostMethod (Action.machine bound) ClassId.query "items" [.object ClassId.query query]).run
          store = (.ok (.object ClassId.generator store.cells.size), made) ∧
        (itemsOf (Action.machine bound) (.object ClassId.generator store.cells.size)).run made =
          (.ok items, after) ∧
        items.Forall₂ Value.IsPair (content.found component content.entities) := by
  have grown := Grows.allocate store (.iteration (.query (.object ClassId.query query))) []
  obtain ⟨items, after, answers, -, pairs⟩ := exists_run_itemsOf
    (asks.of_moves holds (.of_grows grown)) ((Moves.of_grows grown).world? holds)
    (object?_allocate store _ []) enough
  exact ⟨_, items, after, run_hostMethod_items _ store query, answers, pairs⟩

end Action

end Deferred
