import Deferred.Proofs.Checking
import Deferred.Proofs.Querying

/-!
# Changing a world while a query is gone through

The body of a loop over a query may spawn, despawn and insert, and the loop goes on.  The entities
it comes to were taken when the generator was asked first, and none is put in between afterwards;
what an entity holds is asked when its turn comes, so one that was removed in the meantime is passed
over, and one that was given another component is found with that one.
-/

namespace Deferred

open Store Action

/-! ## What the body of a loop does -/

/-- Does a change leave alone what a query is gone through by: the cursors, what the query keeps, the
ways in which it asks the world, and the classes of the host?  What the world holds may be changed
in every way but one, which is to make the world anew. -/
def Change.leavesQuery (world query : Ref) (cursors : List Ref) : Change → Bool
  | .reset target => target ≠ world
  | .advance target _ => target ∉ cursors
  | .setAttribute target name _ | .removeAttribute target name =>
    (target ≠ world || name ∉ ["entities", "get"]) &&
      (target ≠ query || name ∉ ["_world", "_component"])
  | .setClassAttribute .. | .removeClassAttribute .. | .declareClass .. => false
  | _ => true

namespace Action

variable {α β : Type} {kind : Change → Bool}

/-- Every change that an action makes is of a kind. -/
def Makes (kind : Change → Bool) (action : Action α) : Prop :=
  ∀ store, (action.changes store).all kind = true

namespace Makes

theorem done (value : α) : (Action.done value).Makes kind := fun _ => rfl

theorem fail (fault : Fault) : (Action.fail fault : Action α).Makes kind := fun _ => rfl

theorem perform {change : Change} (isKind : kind change = true) :
    (Action.perform change).Makes kind := fun _ => by
  rw [changes_perform, List.all_cons, isKind]
  rfl

theorem store : Action.store.Makes kind := fun _ => rfl

theorem bind {action : Action α} {next : α → Action β} (first : action.Makes kind)
    (each : ∀ value, (next value).Makes kind) : (action.bind next).Makes kind := by
  intro store
  rw [changes_bind, List.all_append, first store, Bool.true_and]
  split
  · exact each _ _
  · rfl

theorem forEach {items : List β} {step : β → Action Unit} (each : ∀ item, (step item).Makes kind) :
    (Action.forEach items step).Makes kind := by
  induction items with
  | nil => exact .done ()
  | cons item rest ih => exact (each item).bind fun _ => ih

end Makes

theorem makes_worldAt (world : Value) : (worldAt world).Makes kind := by
  refine .bind .store fun store => ?_
  split
  · exact .done _
  · exact .fail _

theorem makes_liveIndex? (content : World) (entity : Value) :
    (liveIndex? content entity).Makes kind :=
  .bind .store fun _ => iteInduction (fun _ => .done _) fun _ => .fail _

/-- Reserving, removing and filling entities leaves every query alone. -/
theorem makes_leavesQuery (call : Caller) (world entity : Value) (components : List Value)
    (mark : Mark) (place query : Ref) (cursors : List Ref) :
    (worldMethod call "reserve_entity" [world]).Makes (Change.leavesQuery place query cursors) ∧
      (worldMethod call "despawn" [world, entity]).Makes
        (Change.leavesQuery place query cursors) ∧
      (worldMethod call "insert" [world, entity, .tuple components mark]).Makes
        (Change.leavesQuery place query cursors) := by
  refine ⟨?_, ?_, ?_⟩
  · exact (makes_worldAt world).bind fun _ => .bind .store fun _ =>
      .bind (.perform rfl) fun _ => .done _
  · refine (makes_worldAt world).bind fun found =>
      iteInduction (fun _ => .bind (.done none) fun index => ?_)
        fun _ => .bind (makes_liveIndex? found.2 entity) fun index => ?_
    all_goals
      cases index with
      | none => exact .done _
      | some index => exact .bind (.perform rfl) fun _ => .done _
  · refine (makes_worldAt world).bind fun found =>
      .bind (.bind (makes_liveIndex? found.2 entity) fun index => ?_) fun _ =>
        .bind (.forEach fun _ => .perform rfl) fun _ => .done _
    cases index with
    | none => exact .bind .store fun _ => .fail _
    | some index => exact .done _

end Action

namespace Change

variable {world query : Ref} {cursors : List Ref} {change : Change} {changes : List Change}

theorem reset_notMem_of_leavesQuery
    (leaves : changes.all (leavesQuery world query cursors) = true) : reset world ∉ changes := by
  intro isIn
  have isLeft := List.all_eq_true.mp leaves _ isIn
  simp [leavesQuery] at isLeft

theorem advance_ne_of_leavesQuery (leaves : change.leavesQuery world query cursors = true)
    {cursor : Ref} (isCursor : cursor ∈ cursors) (next : Cursor) :
    change ≠ .advance cursor next := by
  rintro rfl
  simp [leavesQuery, isCursor] at leaves

theorem keepsAttribute_of_leavesQuery (leaves : change.leavesQuery world query cursors = true)
    {target : Ref} {name : String}
    (isKept : target = world ∧ name ∈ ["entities", "get"] ∨
      target = query ∧ name ∈ ["_world", "_component"]) :
    (∀ value, change ≠ .setAttribute target name value) ∧
      change ≠ .removeAttribute target name := by
  have isTouched : ((target ≠ world || name ∉ ["entities", "get"]) &&
      (target ≠ query || name ∉ ["_world", "_component"])) = false := by
    rcases isKept with ⟨rfl, isKept⟩ | ⟨rfl, isKept⟩ <;> simp [isKept]
  constructor
  · rintro value rfl
    exact Bool.false_ne_true (isTouched.symm.trans leaves)
  · rintro rfl
    exact Bool.false_ne_true (isTouched.symm.trans leaves)

end Change

namespace Store

variable {store : Store} {place other : Ref} {id : ClassId} {name : String} {change : Change}

/-- An iteration is moved on by nothing but a change of its cursor. -/
theorem object?_apply_iteration {cursor : Cursor}
    (stands : store.object? place = some (.iteration cursor))
    (keeps : ∀ next, change ≠ .advance place next) :
    (change.apply store).object? place = some (.iteration cursor) := by
  have ofWorld : ∀ target made, (store.modifyWorld target made).object? place =
      some (.iteration cursor) := fun _ _ => object?_modifyObject_of_fixed stands rfl
  cases change with
  | allocate object attributes => exact (Grows.allocate store object attributes).object? stands
  | advance target next =>
    have apart : place ≠ target := fun same => keeps next (same ▸ rfl)
    exact (object?_advance_of_ne apart next).trans stands
  | setAttribute | removeAttribute =>
    refine Eq.trans ?_ stands
    exact object?_modifyCell_of_kept fun _ => rfl
  | reserve target | despawn target | insert target | insertResource target
  | removeResource target => exact ofWorld target _
  | setItems | setEntries | setSlots | setOctets | setVariable | setName | setFunction | reset
  | push | pop =>
    refine object?_modifyObject_of_fixed stands ?_
    rfl
  | takeMark | setClassAttribute | removeClassAttribute | declareClass | makeModule | setGlobal
  | log | print | notice => exact stands

/-- An attribute is changed by nothing but a change of this attribute. -/
theorem ownAttribute?_apply (isOld : place < store.cells.size)
    (keeps : (∀ value, change ≠ .setAttribute place name value) ∧
      change ≠ .removeAttribute place name) :
    (change.apply store).ownAttribute? (.object id place) name =
      store.ownAttribute? (.object id place) name := by
  have ofCell : ∀ target (made : Cell → Cell), (place = target →
      ∀ cell, Entries.get? (made cell).attributes name = Entries.get? cell.attributes name) →
      (store.modifyCell target made).ownAttribute? (.object id place) name =
        store.ownAttribute? (.object id place) name := by
    intro target made kept
    simp only [ownAttribute?, attributesOf]
    by_cases same : place = target
    · rw [same, cell?_modifyCell, ← same]
      cases store.cell? place with
      | none => rfl
      | some cell => exact kept same cell
    · rw [cell?_modifyCell_of_ne _ same]
  cases change with
  | allocate object attributes =>
    exact (Grows.allocate store object attributes).ownAttribute?_eq isOld name
  | setAttribute target part value =>
    refine ofCell target _ fun same cell => Entries.get?_put_of_ne _ _ ?_
    rintro rfl
    exact keeps.1 value (same ▸ rfl)
  | removeAttribute target part =>
    refine ofCell target _ fun same cell => Entries.get?_remove_of_ne ?_
    rintro rfl
    exact keeps.2 (same ▸ rfl)
  | setItems | setEntries | setSlots | setOctets | setVariable | setName | setFunction | reset
  | advance | reserve | despawn | insert | insertResource | removeResource | push | pop =>
    exact ofCell _ _ fun _ _ => rfl
  | takeMark | setClassAttribute | removeClassAttribute | declareClass | makeModule | setGlobal
  | log | print | notice => rfl

end Store

/-- A query is being gone through: it asks its world, and its generator has some entities left. -/
structure Store.Underway (store : Store) (generator query entities : Ref) (id : ClassId)
    (place : Ref) (component : ClassId) (rest : List Entity) : Prop where
  asks : store.Asks query id place component
  holds : ∃ content, store.world? place = some content
  left : store.Left generator query entities rest

namespace Store.Underway

variable {store : Store} {generator query entities place : Ref} {id component : ClassId}
  {rest : List Entity}

theorem apply {change : Change}
    (underway : store.Underway generator query entities id place component rest)
    (leaves : change.leavesQuery place query [generator, entities] = true) :
    (change.apply store).Underway generator query entities id place component rest where
  asks := by
    obtain ⟨content, holds⟩ := underway.holds
    have classes : (change.apply store).generated = store.generated ∧
        (change.apply store).attributes = store.attributes ∧
        (change.apply store).removed = store.removed := by
      cases change with
      | setClassAttribute | removeClassAttribute | declareClass => cases leaves
      | _ => exact ⟨rfl, rfl, rfl⟩
    exact underway.asks.of_kept (underway.asks.intact.of_classes classes)
      (fun name isKept => ownAttribute?_apply underway.asks.lt_size
        (Change.keepsAttribute_of_leavesQuery leaves (.inr ⟨rfl, isKept⟩)))
      fun name isKept => ownAttribute?_apply (lt_size_of_object? (world?_eq_some.mp holds))
        (Change.keepsAttribute_of_leavesQuery leaves (.inl ⟨rfl, isKept⟩))
  holds := by
    obtain ⟨content, holds⟩ := underway.holds
    exact ⟨_, world?_apply holds change⟩
  left := by
    have keeps : ∀ cursor ∈ [generator, entities], ∀ next, change ≠ .advance cursor next :=
      fun cursor isCursor => Change.advance_ne_of_leavesQuery leaves isCursor
    cases underway.left with
    | running runs waits apart =>
      exact .running (object?_apply_iteration runs (keeps _ (by simp)))
        (object?_apply_iteration waits (keeps _ (by simp))) apart
    | ended ends => exact .ended (object?_apply_iteration ends (keeps _ (by simp)))

/-- Whatever the body of a loop does to a world, the loop can go on. -/
theorem replay {changes : List Change}
    (underway : store.Underway generator query entities id place component rest)
    (leaves : changes.all (Change.leavesQuery place query [generator, entities]) = true) :
    (store.replay changes).Underway generator query entities id place component rest := by
  induction changes generalizing store with
  | nil => exact underway
  | cons change others ih =>
    rw [List.all_cons, Bool.and_eq_true] at leaves
    exact ih (underway.apply leaves.1) leaves.2

end Store.Underway

/-! ## Visits -/

/-- One time that a generator is asked: what there was at that time, and how it answered. -/
structure Visit where
  asked : Store
  outcome : Except Fault (Option Value)

namespace Visit

/-- A visit gives out an entity that is live at that time, with the component that it holds then. -/
def Gives (place : Ref) (component : ClassId) (visit : Visit) (entity : Entity) : Prop :=
  ∃ now value item, visit.asked.world? place = some now ∧ now.isLive entity.index = true ∧
    now.component? entity.index component = some value ∧ value ≠ .absent ∧
    visit.outcome = .ok (some item) ∧ item.IsPair (entity, value)

/-- At the time of a visit a world has given out all the numbers that it had given out before. -/
def IsSince (place : Ref) (content : World) (visit : Visit) : Prop :=
  ∃ now, visit.asked.world? place = some now ∧ content.nextIndex ≤ now.nextIndex

/-- Visits that give out some entities, one each, and after the last of them nothing any more. -/
inductive GiveOut (place : Ref) (component : ClassId) : List Visit → List Entity → Prop
  | ended {visits : List Visit} (none : ∀ visit ∈ visits, visit.outcome = .ok none) :
    GiveOut place component visits []
  | next {visit : Visit} {visits : List Visit} {entity : Entity} {rest : List Entity}
    (gives : visit.Gives place component entity) (others : GiveOut place component visits rest) :
    GiveOut place component (visit :: visits) (entity :: rest)

namespace GiveOut

variable {place : Ref} {component : ClassId} {visits : List Visit} {given : List Entity}

theorem ended_of_nil (gives : GiveOut place component visits []) :
    ∀ visit ∈ visits, visit.outcome = .ok none := by
  cases gives with
  | ended none => exact none

/-- No visit fails. -/
theorem answers (gives : GiveOut place component visits given) :
    ∀ visit ∈ visits, ∃ answer, visit.outcome = .ok answer := by
  induction gives with
  | ended none => exact fun visit isIn => ⟨_, none visit isIn⟩
  | next first others ih =>
    intro visit isIn
    rcases List.mem_cons.mp isIn with rfl | isLater
    · obtain ⟨now, value, item, -, -, -, -, answers, -⟩ := first
      exact ⟨_, answers⟩
    · exact ih visit isLater

/-- Where there are more visits than entities, the last of them has nothing to give out. -/
theorem ends (gives : GiveOut place component visits given) (more : given.length < visits.length) :
    ∃ visit ∈ visits.getLast?, visit.outcome = .ok none := by
  induction gives with
  | @ended visits none =>
    obtain ⟨last, isLast⟩ := Option.isSome_iff_exists.mp
      (List.getLast?_isSome.mpr (List.ne_nil_of_length_pos more))
    exact ⟨last, isLast, none last (List.mem_of_getLast? isLast)⟩
  | @next visit visits entity rest first others ih =>
    obtain ⟨last, isLast, answers⟩ := ih (Nat.lt_of_succ_lt_succ more)
    refine ⟨last, ?_, answers⟩
    rw [List.getLast?_cons, Option.mem_def.mp isLast]
    rfl

end GiveOut

end Visit

/-- The times that a generator is asked when it is asked again and again, and each time something
is done before it is asked again. -/
def visits (machine : Machine) (generator : Value) : List (List Change) → Store → List Visit
  | [], _ => []
  | body :: bodies, store =>
    let ran := (next? machine generator).run store
    { asked := store, outcome := ran.1 } :: visits machine generator bodies (ran.2.replay body)

section Visits

variable {store : Store} {generator query entities place : Ref} {id component : ClassId}
  {content : World} {rest : List Entity} {depth : Nat} {bodies : List (List Change)}

/-- From one answer on, the visits give out some of the entities that are left, in their order.  The
numbers that the world gives out meanwhile are no smaller than the next one is now. -/
theorem exists_giveOut (asks : store.Asks query id place component)
    (holds : store.world? place = some content)
    (asked : ∃ answer after,
      (next? (Action.machine (depth + 2)) (.object ClassId.generator generator)).run store =
          (.ok answer, after) ∧
        Finds generator query entities content component rest store answer after)
    (enough : rest.length ≤ depth)
    (leaves : ∀ body ∈ bodies,
      body.all (Change.leavesQuery place query [generator, entities]) = true) :
    let made := visits (Action.machine (depth + 2)) (.object ClassId.generator generator) bodies
      store
    ∃ given, given.Sublist rest ∧ Visit.GiveOut place component made given ∧
      ∀ visit ∈ made, visit.IsSince place content := by
  induction bodies generalizing store content rest with
  | nil => exact ⟨[], List.nil_sublist rest, .ended nofun, nofun⟩
  | cons body others ih =>
    obtain ⟨answer, after, answers, moves, finds⟩ := asked
    have leavesOthers : ∀ body ∈ others,
        body.all (Change.leavesQuery place query [generator, entities]) = true :=
      fun other isIn => leaves other (List.mem_cons_of_mem body isIn)
    -- Behind the body the generator is asked again, about the entities that are left then.
    have goesOn : ∀ left : List Entity, left.length ≤ rest.length →
        after.Left generator query entities left →
        let behind := visits (Action.machine (depth + 2)) (.object ClassId.generator generator)
          others (after.replay body)
        ∃ given, given.Sublist left ∧ Visit.GiveOut place component behind given ∧
          ∀ visit ∈ { asked := store, outcome := .ok answer } :: behind,
            visit.IsSince place content := by
      intro left isShorter leftNow
      have underway : after.Underway generator query entities id place component left :=
        ⟨asks.of_moves holds moves, ⟨content, moves.world? holds⟩, leftNow⟩
      have asksNow := (underway.replay (leaves body List.mem_cons_self)).asks
      have leftBehind := (underway.replay (leaves body List.mem_cons_self)).left
      obtain ⟨now, holdsNow, follows⟩ := exists_follows_replay (moves.world? holds)
        (Change.reset_notMem_of_leavesQuery (leaves body List.mem_cons_self))
      have enoughLeft : left.length + 2 ≤ (Action.machine (depth + 2)).bound :=
        Nat.add_le_add_right (Nat.le_trans isShorter enough) 2
      obtain ⟨given, isGiven, gives, since⟩ := ih asksNow holdsNow
        (exists_run_nextWithin asksNow holdsNow leftBehind enoughLeft depth)
        (Nat.le_trans isShorter enough) leavesOthers
      refine ⟨given, isGiven, gives, List.forall_mem_cons.mpr ⟨⟨content, holds, Nat.le_refl _⟩, ?_⟩⟩
      intro visit isIn
      obtain ⟨later, holdsLater, isLater⟩ := since visit isIn
      exact ⟨later, holdsLater, Nat.le_trans (follows.next ▸ Nat.le_add_right _ _) isLater⟩
    simp only [visits, answers]
    cases isNext : content.nextMatch component rest with
    | none =>
      rw [isNext] at finds
      obtain ⟨rfl, leftNow⟩ := finds
      obtain ⟨given, isGiven, gives, since⟩ := goesOn [] (Nat.zero_le _) leftNow
      obtain rfl := List.sublist_nil.mp isGiven
      exact ⟨[], List.nil_sublist rest, .ended (List.forall_mem_cons.mpr ⟨rfl, gives.ended_of_nil⟩),
        since⟩
    | some found =>
      obtain ⟨⟨entity, value⟩, left⟩ := found
      rw [isNext] at finds
      obtain ⟨⟨item, rfl, isPair⟩, leftNow⟩ := finds
      obtain ⟨isFound, isBehind⟩ := World.nextMatch_eq_some isNext
      obtain ⟨given, isGiven, gives, since⟩ :=
        goesOn left ((List.sublist_cons_self entity left).trans isBehind).length_le leftNow
      obtain ⟨isThere, isValue⟩ := World.found?_eq_some.mp isFound
      exact ⟨entity :: given, (isGiven.cons_cons entity).trans isBehind,
        .next ⟨content, value, item, holds, World.isLive_of_component? isThere, isThere, isValue,
          rfl, isPair⟩ gives, since⟩

end Visits

/-! ## The loop -/

/-- Visits go through the entities of a world as they were at the first of them, whatever is done to
the world in between. -/
structure GoThrough (place : Ref) (component : ClassId) (content : World) (visits : List Visit)
    (given : List Entity) : Prop where
  gives : Visit.GiveOut place component visits given
  answers : ∀ visit ∈ visits, ∃ answer, visit.outcome = .ok answer
  /-- Asked once more than there were entities, the generator has come to its end. -/
  ends : content.entities.length < visits.length →
    ∃ visit ∈ visits.getLast?, visit.outcome = .ok none
  few : given.length ≤ content.entities.length
  taken : given.Sublist content.entities
  increasing : (given.map Entity.index).Pairwise (· < ·)
  /-- What is given has smaller numbers than every entity that the world gives out meanwhile. -/
  older : ∀ entity ∈ given, entity.index < content.nextIndex
  since : ∀ visit ∈ visits, visit.IsSince place content

/-- **A loop over a query may change the world.**  Since a world was made anything was done to it; a
generator is asked for the first time, and each time it has answered any changes are made that leave
the query alone.  Then every visit answers; the visits give out some of the entities that were live at
the first of them, in the order of their numbers and each with what it holds when it is given out,
and nothing any more after that. -/
theorem visits_survive_changes {origin : Store} {history : List Change} {place query generator : Ref}
    {id component : ClassId} {content : World} {bound : Nat} {bodies : List (List Change)}
    (made : origin.world? place = some {})
    (holds : (origin.replay history).world? place = some content)
    (asks : (origin.replay history).Asks query id place component)
    (starts : (origin.replay history).object? generator =
      some (.iteration (.query (.object ClassId.query query))))
    (enough : content.entities.length + 3 ≤ bound)
    (leaves : ∀ body ∈ bodies, body.all (Change.leavesQuery place query
      [generator, (origin.replay history).cells.size]) = true) :
    ∃ given, GoThrough place component content
      (visits (Action.machine bound) (.object ClassId.generator generator) bodies
        (origin.replay history)) given := by
  obtain ⟨depth, rfl⟩ : ∃ depth, bound = depth + 2 := ⟨bound - 2, by omega⟩
  obtain ⟨now, holdsNow, ordered⟩ := exists_ordered_replay history made
  obtain rfl : now = content := Option.some.inj (holdsNow.symm.trans holds)
  obtain ⟨given, taken, gives, since⟩ := exists_giveOut asks holds
    (exists_run_nextWithin_query asks holds starts enough depth) (by omega) leaves
  exact
    ⟨given,
      { gives
        answers := gives.answers
        ends := fun more => gives.ends (Nat.lt_of_le_of_lt taken.length_le more)
        few := taken.length_le
        taken
        increasing := ordered.increasing.sublist (taken.map _)
        older := fun entity isGiven => ordered.below entity (taken.subset isGiven)
        since }⟩

/-- A new world, a query for its whole numbers, and a generator that the query made. -/
def queriedStore : Store where
  cells := #[{ object := .world {} },
    { object := .plain
      attributes := [("_world", .object ClassId.world 0), ("_component", .cls ClassId.int)] },
    { object := .iteration (.query (.object ClassId.query 1)) }]

/-- Three entities are made, each with a whole number. -/
def threeNumbered : List Change :=
  [.reserve 0, .insert 0 0 (.ofInt 5), .reserve 0, .insert 0 1 (.ofInt 6), .reserve 0,
    .insert 0 2 (.ofInt 7)]

/-- The body of a loop that removes the second entity, replaces what the third one holds and makes a
fourth, when it is entered for the first time. -/
def disturbingOnce : List (List Change) :=
  [[.despawn 0 1, .insert 0 2 (.ofInt 8), .reserve 0, .insert 0 3 (.ofInt 9)], [], [], []]

def disturbedVisits : List Visit :=
  visits (Action.machine 6) (.object ClassId.generator 2) disturbingOnce
    (queriedStore.replay threeNumbered)

/-- The loop comes to the first entity and to the third one, with what this holds by then. -/
theorem visits_survive_changes_disturbingOnce :
    disturbedVisits.map Visit.outcome =
        [.ok (some (.tuple [(Entity.mk 0 1).toValue, .ofInt 5] 6)),
          .ok (some (.tuple [(Entity.mk 2 3).toValue, .ofInt 8] 10)), .ok none, .ok none] ∧
      ∃ content given, (queriedStore.replay threeNumbered).world? 0 = some content ∧
        GoThrough 0 ClassId.int content disturbedVisits given := by
  have asks : (queriedStore.replay threeNumbered).Asks 1 ClassId.world 0 ClassId.int :=
    { intact := intact_of_isIntact (by decide +kernel)
      isWorld := .inl rfl
      world := rfl
      component := rfl
      entities := rfl
      get := rfl }
  have leaves : ∀ body ∈ disturbingOnce, body.all (Change.leavesQuery 0 1
      [2, (queriedStore.replay threeNumbered).cells.size]) = true := by
    decide
  have made : queriedStore.world? 0 = some {} := rfl
  have starts : (queriedStore.replay threeNumbered).object? 2 =
      some (.iteration (.query (.object ClassId.query 1))) := rfl
  have size : ((queriedStore.replay threeNumbered).world? 0).map
      (fun content => content.entities.length + 3) = some 6 := rfl
  obtain ⟨content, holds, isSize⟩ := Option.map_eq_some_iff.mp size
  have enough : content.entities.length + 3 ≤ 6 := Nat.le_of_eq isSize
  obtain ⟨given, through⟩ := visits_survive_changes made holds asks starts enough leaves
  exact ⟨by rfl, content, given, holds, through⟩

end Deferred
