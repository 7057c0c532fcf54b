import Deferred.Proofs.Checking
import Deferred.Proofs.Querying

/-!
# The order of entities

A world numbers its entities from nought on, in the order in which it gives them out, and gives no
number out twice, whatever becomes of the entities and however the run goes on or ends.  Its live
entities are told in this order, and so are the matches of every query.
-/

namespace Deferred

open Store Action

variable {store : Store} {place : Ref} {content : World} {bound : Nat}

namespace World

/-- What is found on entities is found in their order. -/
theorem sublist_found (world : World) (component : ClassId) (entities : List Entity) :
    ((world.found component entities).map Prod.fst).Sublist entities := by
  induction entities with
  | nil => exact .refl []
  | cons entity rest ih =>
    rw [found_cons]
    cases world.found? entity.index component with
    | none => exact ih.cons entity
    | some value => exact ih.cons_cons entity

end World

namespace Action

/-- The live entities of a world are told in the order of their numbers. -/
structure TellsEntities (bound : Nat) (place : Ref) (content : World) (store : Store) : Prop where
  entities : ∀ id, ∃ listed after,
    (hostMethod (Action.machine bound) ClassId.world "entities" [.object id place]).run store =
        (.ok (.object ClassId.listIterator store.cells.size), listed) ∧
      (itemsOf (Action.machine bound) (.object ClassId.listIterator store.cells.size)).run listed =
        (.ok (content.entities.map Entity.toValue), after)
  items : ∀ query id component, store.Asks query id place component → ∃ made items after,
    (hostMethod (Action.machine bound) ClassId.query "items" [.object ClassId.query query]).run
        store = (.ok (.object ClassId.generator store.cells.size), made) ∧
      (itemsOf (Action.machine bound) (.object ClassId.generator store.cells.size)).run made =
        (.ok items, after) ∧
      ∃ pairs, items.Forall₂ Value.IsPair pairs ∧
        (pairs.map (·.1.index)).Pairwise (· < ·)

theorem tellsEntities (holds : store.world? place = some content) (ordered : content.Ordered)
    (enough : content.entities.length + 3 ≤ bound) : TellsEntities bound place content store where
  entities id := by
    obtain ⟨depth, rfl⟩ : ∃ depth, bound = depth + 1 := ⟨bound - 1, by omega⟩
    have listed := object?_allocate store
      (.iteration (.items (content.entities.map Entity.toValue))) []
    have isShorter : (content.entities.map Entity.toValue).length < depth + 1 := by
      rw [List.length_map]
      omega
    obtain ⟨after, answers⟩ := exists_run_remaining_items listed isShorter []
    rw [hostMethod_world]
    exact ⟨_, after, run_worldMethod_entities holds,
      (run_itemsOf_iteration rfl (by decide) listed depth).trans answers⟩
  items query id component asks := by
    obtain ⟨made, items, after, makes, answers, pairs⟩ := exists_run_items asks holds enough
    refine ⟨made, items, after, makes, answers, _, pairs, ?_⟩
    have isOrdered := ordered.increasing.sublist
      ((content.sublist_found component content.entities).map Entity.index)
    rwa [List.map_map] at isOrdered

/-- What a world has given out, and what it gives out and tells from now on. -/
structure NumbersEntities (place : Ref) (given : List Entity) (content : World) (store : Store) :
    Prop where
  holds : store.world? place = some content
  /-- No number was given out twice. -/
  numbered : given.map Entity.index =
    (List.range given.length).map fun index : Nat => (index : Int)
  live : content.entities.Sublist given
  below : ∀ entity ∈ content.entities, entity.index < content.nextIndex
  increasing : (content.entities.map Entity.index).Pairwise (· < ·)
  /-- The next entity that is reserved is equal to none that was given out before. -/
  reserves : ∀ machine id, ∃ handle : Entity,
    let reserve := hostMethod machine ClassId.world "reserve_entity" [.object id place]
    reserve.run store = (.ok handle.toValue, (Change.reserve place).apply store) ∧
      reserve.changes store = [.reserve place] ∧
      handedOut place store (reserve.changes store) = [handle] ∧
      ∀ earlier ∈ given, store.equal earlier.toValue handle.toValue = false
  tells : ∀ bound, content.entities.length + 3 ≤ bound → TellsEntities bound place content store

/-- **No entity is given out twice, and the live ones are told in order.**  At every moment of every
run since a world was made, however the run goes on or ends, the world has given out its numbers one
after the other, its live entities have some of them, and it tells these in increasing order, itself
and through every query. -/
theorem world_numbers_entities {α : Type} (action : Action α) (origin : Store)
    (moment length : Nat) {place : Ref}
    (made : (action.reached origin moment).world? place = some {})
    (keeps : .reset place ∉ action.stretch origin moment length) :
    ∃ now, NumbersEntities place
      (handedOut place (action.reached origin moment) (action.stretch origin moment length)) now
      (action.reached origin (moment + length)) := by
  obtain ⟨now, holds, follows⟩ := exists_follows_replay made keeps
  obtain ⟨same, holdsSame, ordered⟩ := exists_ordered_replay
    (action.stretch origin moment length) made
  obtain rfl : same = now := Option.some.inj (holdsSame.symm.trans holds)
  rw [replay_stretch] at holds
  generalize handedOut place _ _ = given at follows
  have numbered : given.map Entity.index =
      (List.range given.length).map fun index : Nat => (index : Int) := by
    rw [follows.numbered, List.range_eq_range']
  have isNext : same.nextIndex = given.length := follows.next.trans (Nat.zero_add _)
  refine ⟨same, holds, numbered, follows.kept, ordered.below, ordered.increasing, ?_,
    fun bound enough => tellsEntities holds ordered enough⟩
  intro machine id
  rw [hostMethod_world]
  obtain ⟨runs, changed⟩ := run_worldMethod_reserve holds
  refine ⟨_, runs, changed, ?_, ?_⟩
  · rw [changed, handedOut, handedOut, List.append_nil, Change.handsOut, if_pos rfl, holds]
    rfl
  · intro earlier isGiven
    have isOld : earlier.index ∈ given.map Entity.index := List.mem_map_of_mem isGiven
    rw [numbered, List.mem_map] at isOld
    obtain ⟨index, isIndex, isEarlier⟩ := isOld
    rw [equal_toValue, beq_eq_false_iff_ne, ← isEarlier, World.nextHandle, isNext]
    exact Int.ne_of_lt (Int.ofNat_lt.mpr (List.mem_range.mp isIndex))

def newWorldStore : Store where
  cells := #[{ object := .world {} }]

/-- A run that reserves an entity, removes it and reserves another one, and then fails to put a
component on the first one. -/
def fillRemoved : Action Value :=
  let act := hostMethod (Action.machine 0) ClassId.world
  let world := .object ClassId.world 0
  (act "reserve_entity" [world]).bind fun first =>
    (act "despawn" [world, first]).bind fun _ =>
    (act "reserve_entity" [world]).bind fun _ =>
    act "insert" [world, first, .tuple [.ofInt 5] 0]

/-- The second entity has a number of its own, and the first one is gone. -/
theorem world_numbers_entities_fillRemoved :
    kindOf? fillRemoved newWorldStore = some "EntityNotFoundError" ∧
      ∃ now, now.entities = [⟨1, 2⟩] ∧ NumbersEntities 0 [⟨0, 1⟩, ⟨1, 2⟩] now
        (fillRemoved.reached newWorldStore (0 + 3)) := by
  have isSince : fillRemoved.stretch newWorldStore 0 3 = [.reserve 0, .despawn 0 0, .reserve 0] := by
    rfl
  have keeps : .reset 0 ∉ fillRemoved.stretch newWorldStore 0 3 := by
    rw [isSince]
    simp
  have given : handedOut 0 (fillRemoved.reached newWorldStore 0)
      (fillRemoved.stretch newWorldStore 0 3) = [⟨0, 1⟩, ⟨1, 2⟩] := by
    rw [isSince]
    rfl
  obtain ⟨now, numbers⟩ := world_numbers_entities fillRemoved newWorldStore 0 3 rfl keeps
  rw [given] at numbers
  have entities : ((fillRemoved.reached newWorldStore (0 + 3)).world? 0).map World.entities =
      some [⟨1, 2⟩] := by
    rfl
  rw [numbers.holds] at entities
  exact ⟨by rfl, now, Option.some.inj entities, numbers⟩

end Action

end Deferred
