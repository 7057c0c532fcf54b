import Deferred.Proofs.Changes
import Deferred.Proofs.Growth
import Mathlib.Data.List.Induction

/-!
# Worlds and their history

What a world holds is settled by the changes that were made to it since it was made.  A change that
reserves an entity gives out the next number and puts the entity behind all others, and no change
moves an entity or gives it another number, so the entities of a world stand in the order of their
numbers, all of them below the next one.  A component of an entity is the last one of its class that
was put there while the entity was live.
-/

namespace Deferred

/-- The world that an object is. -/
def Object.world? : Object → Option World
  | .world content => some content
  | _ => none

/-- The world at a place. -/
def Store.world? (store : Store) (place : Ref) : Option World :=
  (store.object? place).bind Object.world?

/-- What a change makes of the world at a place. -/
def Change.onWorld (place : Ref) (mark : Mark) (content : World) : Change → World
  | .reset target => if target = place then {} else content
  | .reserve target => if target = place then content.reserve mark else content
  | .despawn target index => if target = place then content.despawn index else content
  | .insert target index component =>
    if target = place then content.insert index component else content
  | .insertResource target resource =>
    if target = place then content.insertResource resource else content
  | .removeResource target id => if target = place then content.removeResource id else content
  | _ => content

namespace Store

variable {store : Store} {place : Ref} {content : World}

theorem world?_eq_some :
    store.world? place = some content ↔ store.object? place = some (.world content) := by
  rw [world?, Option.bind_eq_some_iff]
  constructor
  · rintro ⟨found, isFound, isWorld⟩
    cases found with
    | world other =>
      obtain rfl : other = content := Option.some.inj isWorld
      exact isFound
    | _ => cases isWorld
  · exact fun isFound => ⟨_, isFound, rfl⟩

/-- A change of an object that leaves worlds alone leaves what they hold. -/
theorem world?_modifyObject {target : Ref} {change : Object → Object}
    (kept : ∀ object, (change object).world? = object.world?) :
    (store.modifyObject target change).world? place = store.world? place := by
  rw [world?, world?]
  by_cases same : place = target
  · rw [same, object?_modifyObject]
    cases store.object? target with
    | none => rfl
    | some object => exact kept object
  · rw [object?_modifyObject_of_ne change same]

/-- A change of a world is seen in this world only. -/
theorem world?_modifyWorld (store : Store) (target place : Ref) (change : World → World) :
    (store.modifyWorld target change).world? place =
      if target = place then (store.world? place).map change else store.world? place := by
  rw [modifyWorld, world?]
  by_cases same : target = place
  · rw [if_pos same, same, object?_modifyObject, world?]
    cases store.object? place with
    | none => rfl
    | some object => cases object <;> rfl
  · rw [if_neg same, object?_modifyObject_of_ne _ (Ne.symm same), world?]

/-- Worlds are changed by nothing but the changes that are meant for them. -/
theorem world?_apply (holds : store.world? place = some content) (change : Change) :
    (change.apply store).world? place = some (change.onWorld place store.nextMark content) := by
  have meant : ∀ (target : Ref) (made : World → World),
      (store.modifyWorld target made).world? place =
        some (if target = place then made content else content) := by
    intro target made
    rw [world?_modifyWorld, holds]
    split <;> rfl
  cases change with
  | reserve target => exact meant target _
  | despawn target index => exact meant target _
  | insert target index component => exact meant target _
  | insertResource target resource => exact meant target _
  | removeResource target id => exact meant target _
  | reset target =>
    rw [Change.apply, world?, Change.onWorld]
    by_cases same : target = place
    · rw [if_pos same, same, object?_modifyObject, world?_eq_some.mp holds]
      rfl
    · rw [if_neg same, object?_modifyObject_of_ne _ (Ne.symm same), world?_eq_some.mp holds]
      rfl
  | allocate object attributes =>
    exact world?_eq_some.mpr
      ((Grows.allocate store object attributes).object? (world?_eq_some.mp holds))
  | setAttribute | removeAttribute =>
    refine Eq.trans ?_ holds
    rw [world?, world?]
    exact congrArg (Option.bind · Object.world?) (object?_modifyCell_of_kept fun _ => rfl)
  | setItems | setEntries | setSlots | setOctets | setVariable | setName | setFunction | advance
  | push | pop =>
    refine Eq.trans ?_ holds
    exact world?_modifyObject fun object => by cases object <;> rfl
  | takeMark | setClassAttribute | removeClassAttribute | declareClass | makeModule | setGlobal
  | log | print | notice => exact holds

/-- What every change keeps of a world, a history keeps. -/
theorem exists_world?_replay {kept : World → Prop} {changes : List Change}
    (step : ∀ change ∈ changes, ∀ mark content, kept content →
      kept (change.onWorld place mark content))
    (holds : store.world? place = some content) (isKept : kept content) :
    ∃ now, (store.replay changes).world? place = some now ∧ kept now := by
  induction changes generalizing store content with
  | nil => exact ⟨content, holds, isKept⟩
  | cons change rest ih =>
    exact ih (fun other isLater => step other (List.mem_cons_of_mem _ isLater))
      (world?_apply holds change) (step change List.mem_cons_self _ _ isKept)

end Store

/-! ## The order of entities -/

/-- Entities stand in the order of their numbers, all of them below the next one. -/
structure World.Ordered (world : World) : Prop where
  increasing : (world.entities.map Entity.index).Pairwise (· < ·)
  below : ∀ entity ∈ world.entities, entity.index < world.nextIndex

namespace World

variable {world : World}

theorem ordered_empty : ({} : World).Ordered where
  increasing := List.Pairwise.nil
  below := fun _ isIn => by cases isIn

theorem entities_reserve (world : World) (mark : Mark) :
    (world.reserve mark).entities = world.entities ++ [world.nextHandle mark] :=
  List.map_append

theorem entities_insert (world : World) (index : Int) (component : Value) :
    (world.insert index component).entities = world.entities := by
  rw [entities, entities, insert, List.map_map]
  refine List.map_congr_left fun row _ => ?_
  rw [Function.comp_apply]
  split <;> rfl

theorem entities_despawn (world : World) (index : Int) :
    (world.despawn index).entities =
      world.entities.filter fun entity => entity.index ≠ index := by
  rw [entities, entities, despawn, List.filter_map]
  rfl

theorem Ordered.reserve (ordered : world.Ordered) (mark : Mark) :
    (world.reserve mark).Ordered where
  increasing := by
    rw [entities_reserve, List.map_append, List.pairwise_append]
    refine ⟨ordered.increasing, List.pairwise_singleton _ _, ?_⟩
    intro index isIndex next isNext
    obtain ⟨entity, isIn, rfl⟩ := List.mem_map.mp isIndex
    obtain rfl := List.mem_singleton.mp isNext
    exact ordered.below entity isIn
  below := by
    intro entity isIn
    rw [entities_reserve] at isIn
    rcases List.mem_append.mp isIn with isOld | isNew
    · exact Int.lt_trans (ordered.below entity isOld) (Int.lt_succ _)
    · obtain rfl := List.mem_singleton.mp isNew
      exact Int.lt_succ _

theorem Ordered.despawn (ordered : world.Ordered) (index : Int) :
    (world.despawn index).Ordered where
  increasing := by
    rw [entities_despawn]
    exact ordered.increasing.sublist (List.filter_sublist.map _)
  below entity isIn := by
    rw [entities_despawn] at isIn
    exact ordered.below entity (List.mem_of_mem_filter isIn)

theorem Ordered.insert (ordered : world.Ordered) (index : Int) (component : Value) :
    (world.insert index component).Ordered where
  increasing := by
    rw [entities_insert]
    exact ordered.increasing
  below entity isIn := by
    rw [entities_insert] at isIn
    exact ordered.below entity isIn

/-- No change brings the entities of a world out of order. -/
theorem Ordered.onWorld (ordered : world.Ordered) (place : Ref) (mark : Mark) (change : Change) :
    (change.onWorld place mark world).Ordered := by
  cases change with
  | reset target => exact iteInduction (fun _ => ordered_empty) fun _ => ordered
  | reserve target => exact iteInduction (fun _ => ordered.reserve mark) fun _ => ordered
  | despawn target index => exact iteInduction (fun _ => ordered.despawn index) fun _ => ordered
  | insert target index component =>
    exact iteInduction (fun _ => ordered.insert index component) fun _ => ordered
  | insertResource target resource =>
    exact iteInduction (fun _ => ⟨ordered.increasing, ordered.below⟩) fun _ => ordered
  | removeResource target id =>
    exact iteInduction (fun _ => ⟨ordered.increasing, ordered.below⟩) fun _ => ordered
  | _ => exact ordered

end World

/-- The entities of a world are in order at every moment since it was made. -/
theorem Store.exists_ordered_replay {store : Store} {place : Ref} (changes : List Change)
    (made : store.world? place = some {}) :
    ∃ now, (store.replay changes).world? place = some now ∧ now.Ordered :=
  exists_world?_replay (fun change _ mark _ ordered => ordered.onWorld place mark change) made
    World.ordered_empty

/-! ## Entities that are given out -/

/-- The handle that a change gives out, if it reserves an entity of the world at a place. -/
def Change.handsOut (place : Ref) (store : Store) : Change → List Entity
  | .reserve target =>
    if target = place then (store.world? place).toList.map (·.nextHandle store.nextMark) else []
  | _ => []

/-- The handles that changes give out, in order. -/
def handedOut (place : Ref) : Store → List Change → List Entity
  | _, [] => []
  | store, change :: rest => change.handsOut place store ++ handedOut place (change.apply store) rest

/-- What a world has become while some handles were given out: their numbers follow each other, and
its entities are those it had and the ones that were given out, less those that were removed. -/
structure World.Follows (before : World) (given : List Entity) (now : World) : Prop where
  numbered : given.map Entity.index =
    (List.range' before.nextIndex given.length).map fun index : Nat => (index : Int)
  next : now.nextIndex = before.nextIndex + given.length
  kept : now.entities.Sublist (before.entities ++ given)

namespace World.Follows

variable {before between now : World} {given more : List Entity}

theorem refl (world : World) : world.Follows [] world where
  numbered := rfl
  next := rfl
  kept := by rw [List.append_nil]

theorem trans (first : before.Follows given between) (second : between.Follows more now) :
    before.Follows (given ++ more) now where
  numbered := by
    rw [List.map_append, first.numbered, second.numbered, first.next, ← List.map_append,
      List.range'_append_1, List.length_append]
  next := by
    rw [second.next, first.next, List.length_append, Nat.add_assoc]
  kept := by
    rw [← List.append_assoc]
    exact second.kept.trans (first.kept.append_right more)

theorem of_entities (isNext : now.nextIndex = before.nextIndex)
    (kept : now.entities.Sublist before.entities) : before.Follows [] now where
  numbered := rfl
  next := isNext
  kept := by rwa [List.append_nil]

theorem reserve (world : World) (mark : Mark) :
    world.Follows [world.nextHandle mark] (world.reserve mark) where
  numbered := rfl
  next := rfl
  kept := by rw [entities_reserve]

end World.Follows

/-- A change gives out the next number of a world, or none. -/
theorem Change.follows {store : Store} {place : Ref} {content : World} {change : Change}
    (holds : store.world? place = some content) (keeps : change ≠ .reset place) :
    content.Follows (change.handsOut place store)
      (change.onWorld place store.nextMark content) := by
  have still : content.Follows [] content := .refl content
  cases change with
  | reserve target =>
    rw [Change.handsOut, Change.onWorld, holds]
    split
    · exact .reserve content store.nextMark
    · exact still
  | despawn target index =>
    refine iteInduction (fun _ => .of_entities rfl ?_) fun _ => still
    rw [World.entities_despawn]
    exact List.filter_sublist
  | insert target index component =>
    refine iteInduction (fun _ => .of_entities rfl ?_) fun _ => still
    rw [World.entities_insert]
  | insertResource target resource =>
    exact iteInduction (fun _ => .of_entities rfl (List.Sublist.refl _)) fun _ => still
  | removeResource target id =>
    exact iteInduction (fun _ => .of_entities rfl (List.Sublist.refl _)) fun _ => still
  | reset target =>
    have apart : target ≠ place := fun same => keeps (same ▸ rfl)
    rw [Change.onWorld, if_neg apart]
    exact still
  | _ => exact still

/-- While a world is not taken back to its start, its history gives out one number after the
other. -/
theorem Store.exists_follows_replay {store : Store} {place : Ref} {content : World}
    {changes : List Change} (holds : store.world? place = some content)
    (keeps : .reset place ∉ changes) :
    ∃ now, (store.replay changes).world? place = some now ∧
      content.Follows (handedOut place store changes) now := by
  induction changes generalizing store content with
  | nil => exact ⟨content, holds, .refl content⟩
  | cons change rest ih =>
    have keepsFirst : change ≠ .reset place := fun same => keeps (same ▸ List.mem_cons_self)
    have keepsRest : .reset place ∉ rest := fun isIn => keeps (List.mem_cons_of_mem change isIn)
    obtain ⟨now, holdsNow, others⟩ := ih (world?_apply holds change) keepsRest
    exact ⟨now, holdsNow, (Change.follows holds keepsFirst).trans others⟩

/-! ## Components -/

/-- Does a change settle anew which component of a class an entity of the world at a place holds? -/
def Change.settles (place : Ref) (index : Int) (id : ClassId) : Change → Bool
  | .insert target other component => target = place && other = index && component.classId = id
  | .despawn target other => target = place && other = index
  | .reset target => target = place
  | _ => false

namespace World

variable {world : World} {index other : Int} {id : ClassId} {component value : Value}

theorem row?_insert (world : World) (index other : Int) (component : Value) :
    (world.insert index component).row? other = (world.row? other).map fun row =>
      if other = index then
        { row with components := Entries.put row.components component.classId component }
      else row := by
  have sameTest : (fun row : Row => decide (row.handle.index = other)) ∘ (fun row : Row =>
      if row.handle.index = index then
        { row with components := Entries.put row.components component.classId component }
      else row) = fun row => decide (row.handle.index = other) := by
    funext row
    rw [Function.comp_apply]
    split <;> rfl
  rw [row?, row?, insert, List.find?_map, sameTest]
  refine Option.map_congr fun row isFound => ?_
  have isOther : row.handle.index = other := by simpa using List.find?_some isFound
  rw [isOther]

theorem row?_despawn (world : World) (index other : Int) :
    (world.despawn index).row? other = if other = index then none else world.row? other := by
  rw [row?, row?, despawn, List.find?_filter]
  by_cases same : other = index
  · rw [if_pos same, List.find?_eq_none]
    intro row _ isBoth
    simp [same] at isBoth
  · rw [if_neg same]
    congr 1
    funext row
    by_cases isOther : row.handle.index = other <;> simp [isOther, same]

/-- A new entity holds nothing. -/
theorem component?_reserve (world : World) (mark : Mark) (index : Int) (id : ClassId) :
    (world.reserve mark).component? index id = world.component? index id := by
  have isNew : (world.reserve mark).row? index = (world.row? index).or
      ([{ handle := world.nextHandle mark, components := [] }].find? fun row =>
        row.handle.index = index) := List.find?_append
  rw [component?, component?, isNew]
  cases world.row? index with
  | some row => rfl
  | none =>
    rw [Option.none_or, Option.bind_none, List.find?_singleton]
    split <;> rfl

theorem component?_despawn (world : World) (index : Int) (id : ClassId) :
    (world.despawn index).component? index id = none := by
  rw [component?, row?_despawn, if_pos rfl, Option.bind_none]

theorem component?_despawn_of_ne (apart : other ≠ index) :
    (world.despawn index).component? other id = world.component? other id := by
  rw [component?, row?_despawn, if_neg apart, component?]

/-- An entity that is live holds what was put on it. -/
theorem component?_insert (isLive : world.isLive index = true) :
    (world.insert index component).component? index component.classId = some component := by
  obtain ⟨row, isRow⟩ := Option.isSome_iff_exists.mp isLive
  rw [component?, row?_insert, isRow, Option.map_some, Option.bind_some, if_pos rfl]
  exact Entries.get?_put_self _ _ _

theorem component?_insert_of_ne (apart : other ≠ index ∨ id ≠ component.classId) :
    (world.insert index component).component? other id = world.component? other id := by
  rw [component?, row?_insert, component?]
  cases world.row? other with
  | none => rfl
  | some row =>
    rw [Option.map_some, Option.bind_some, Option.bind_some]
    split
    · rename_i same
      exact Entries.get?_put_of_ne _ _ (apart.resolve_left (not_not_intro same))
    · rfl

theorem isLive_of_component? (holds : world.component? index id = some value) :
    world.isLive index = true := by
  rw [component?, Option.bind_eq_some_iff] at holds
  obtain ⟨row, isRow, -⟩ := holds
  rw [isLive, isRow]
  rfl

theorem isLive_insert (isLive : (world.insert index component).isLive other = true) :
    world.isLive other = true := by
  rw [World.isLive, row?_insert, Option.isSome_map] at isLive
  exact isLive

end World

namespace Change

variable {place : Ref} {index : Int} {id : ClassId} {mark : Mark} {content : World} {value : Value}
  {change : Change}

/-- What does not settle a component anew leaves it as it is. -/
theorem component?_onWorld (isOther : change.settles place index id = false) :
    (change.onWorld place mark content).component? index id = content.component? index id := by
  cases change with
  | reset target =>
    have apart : target ≠ place := by simpa [settles] using isOther
    rw [onWorld, if_neg apart]
  | reserve target =>
    exact iteInduction (motive := fun now : World => now.component? index id = _)
      (fun _ => content.component?_reserve mark index id) fun _ => rfl
  | despawn target other =>
    rw [onWorld]
    split
    · rename_i same
      refine World.component?_despawn_of_ne (Ne.symm ?_)
      simpa [settles, same] using isOther
    · rfl
  | insert target other component =>
    rw [onWorld]
    split
    · rename_i same
      refine World.component?_insert_of_ne ?_
      by_cases isIndex : index = other
      · exact .inr (Ne.symm (by simpa [settles, same, isIndex] using isOther))
      · exact .inl isIndex
    · rfl
  | insertResource target resource =>
    exact iteInduction (motive := fun now : World => now.component? index id = _)
      (fun _ => rfl) fun _ => rfl
  | removeResource target kind =>
    exact iteInduction (motive := fun now : World => now.component? index id = _)
      (fun _ => rfl) fun _ => rfl
  | _ => rfl

/-- Where a component was settled anew and one is there, it was put there. -/
theorem eq_insert_of_settles (isSettled : change.settles place index id = true)
    (holds : (change.onWorld place mark content).component? index id = some value) :
    change = .insert place index value ∧ value.classId = id ∧ content.isLive index = true := by
  cases change with
  | reset target =>
    have same : target = place := by simpa [settles] using isSettled
    rw [onWorld, if_pos same] at holds
    cases holds
  | despawn target other =>
    obtain ⟨rfl, rfl⟩ : target = place ∧ other = index := by simpa [settles] using isSettled
    rw [onWorld, if_pos rfl, World.component?_despawn] at holds
    cases holds
  | insert target other component =>
    obtain ⟨⟨rfl, rfl⟩, rfl⟩ : (target = place ∧ other = index) ∧ component.classId = id := by
      simpa [settles] using isSettled
    rw [onWorld, if_pos rfl] at holds
    have isLive := World.isLive_insert (World.isLive_of_component? holds)
    rw [World.component?_insert isLive] at holds
    obtain rfl := Option.some.inj holds
    exact ⟨rfl, rfl, isLive⟩
  | _ => cases isSettled

end Change

/-- A component was put on a live entity, and nothing since has settled anew which component of its
class the entity holds. -/
def LastInserted (place : Ref) (store : Store) (changes : List Change) (index : Int)
    (value : Value) : Prop :=
  ∃ earlier later, changes = earlier ++ .insert place index value :: later ∧
    (∃ between, (store.replay earlier).world? place = some between ∧
      between.isLive index = true) ∧
    ∀ change ∈ later, change.settles place index value.classId = false

theorem lastInserted_concat {place : Ref} {store : Store} {rest : List Change} {change : Change}
    {index : Int} {value : Value} : LastInserted place store (rest ++ [change]) index value ↔
      LastInserted place store rest index value ∧
          change.settles place index value.classId = false ∨
        change = .insert place index value ∧
          ∃ between, (store.replay rest).world? place = some between ∧
            between.isLive index = true := by
  constructor
  · rintro ⟨earlier, later, splits, live, kept⟩
    rcases List.eq_nil_or_concat later with rfl | ⟨init, last, rfl⟩
    · obtain ⟨rfl, isChange⟩ := List.append_inj' splits rfl
      exact .inr ⟨List.head_eq_of_cons_eq isChange, live⟩
    · rw [List.concat_eq_append, ← List.cons_append, ← List.append_assoc] at splits
      obtain ⟨rfl, isChange⟩ := List.append_inj' splits rfl
      obtain rfl := List.head_eq_of_cons_eq isChange
      exact .inl ⟨⟨earlier, init, rfl, live, fun other isIn => kept other (by simp [isIn])⟩,
        kept change (by simp)⟩
  · rintro (⟨⟨earlier, later, rfl, live, kept⟩, isKept⟩ | ⟨rfl, live⟩)
    · refine ⟨earlier, later ++ [change], by simp, live, fun other isIn => ?_⟩
      rcases List.mem_append.mp isIn with isOld | isLast
      · exact kept other isOld
      · rw [List.mem_singleton.mp isLast]
        exact isKept
    · exact ⟨rest, [], rfl, live, by simp⟩

/-- What an entity holds under a class is the last component of this class that was put on it since
it was given out. -/
theorem Store.component?_replay_iff {store : Store} {place : Ref} {changes : List Change}
    {now : World} {index : Int} {id : ClassId} {value : Value} (made : store.world? place = some {})
    (holds : (store.replay changes).world? place = some now) :
    now.component? index id = some value ↔
      value.classId = id ∧ LastInserted place store changes index value := by
  induction changes using List.reverseRecOn generalizing now with
  | nil =>
    obtain rfl : {} = now := Option.some.inj (made.symm.trans holds)
    constructor
    · intro isThere
      cases isThere
    · rintro ⟨-, earlier, later, none, -⟩
      simp at none
  | append_singleton rest change ih =>
    obtain ⟨before, holdsBefore, -⟩ := exists_ordered_replay rest made
    rw [replay_append, replay_cons, replay_nil, world?_apply holdsBefore change] at holds
    obtain rfl := Option.some.inj holds
    rw [lastInserted_concat, holdsBefore]
    cases isSettled : change.settles place index id with
    | false =>
      rw [Change.component?_onWorld isSettled, ih holdsBefore]
      constructor
      · rintro ⟨rfl, isLast⟩
        exact ⟨rfl, .inl ⟨isLast, isSettled⟩⟩
      · rintro ⟨rfl, ⟨isLast, -⟩ | ⟨rfl, -⟩⟩
        · exact ⟨rfl, isLast⟩
        · simp [Change.settles] at isSettled
    | true =>
      constructor
      · intro isThere
        obtain ⟨isInsert, isClass, isLive⟩ := Change.eq_insert_of_settles isSettled isThere
        exact ⟨isClass, .inr ⟨isInsert, before, rfl, isLive⟩⟩
      · rintro ⟨rfl, ⟨-, isKept⟩ | ⟨rfl, between, isBefore, isLive⟩⟩
        · rw [isSettled] at isKept
          cases isKept
        · obtain rfl := Option.some.inj isBefore
          rw [Change.onWorld, if_pos rfl]
          exact World.component?_insert isLive

end Deferred
