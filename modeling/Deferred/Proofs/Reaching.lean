import Deferred.Proofs.Handles
import Deferred.Proofs.Publishing

/-!
# What instances see of a method

A method that a decoration puts on a host type is found bound to every instance of the type, and of
the classes below it that have nothing of that name, unless the instance keeps something of its own
under the name: this comes first.  Conflicts are looked for on the types alone, so a method may be
put on a type whose instances all hide it.  A handle keeps its queue and its world, so the methods
that it does not see are those that are called as these parts are.
-/

namespace Deferred

open Store Action

variable {store before after : Store} {call : Caller} {id type : ClassId} {name : String}
  {place : Ref} {value method : Value}

namespace Store

/-- A class comes below a type, and none of the classes before the type has anything of a name. -/
def Inherits (store : Store) (id type : ClassId) (name : String) : Prop :=
  ∃ lower above, store.ancestors id = lower ++ type :: above ∧
    ∀ parent ∈ lower, store.ownFound? parent name = none

/-- What was put on a type is found on the classes below it. -/
theorem find_of_inherits (inherits : store.Inherits id type name)
    (isThere : store.classAttribute? type name = some value) :
    store.find id name = some (.value value) := by
  obtain ⟨lower, above, isAbove, bare⟩ := inherits
  have own : store.ownFound? type name = some (.value value) := by rw [ownFound?, isThere]
  have first : (store.ancestors id).findSome? (store.ownFound? · name) = some (.value value) := by
    rw [isAbove, List.findSome?_append, List.findSome?_eq_none_iff.mpr bare, Option.none_or,
      List.findSome?_cons, own]
  rw [find, first]

/-- A type comes below itself. -/
theorem inherits_self (intact : store.Intact) (isHost : type ∈ hostClasses) :
    store.Inherits type type name := by
  have first : ∀ id ∈ hostClasses, (({} : Store).ancestors id).head? = some id := by decide
  obtain ⟨above, isAbove⟩ := List.head?_eq_some_iff.mp (first type isHost)
  refine ⟨[], above, ?_, by simp⟩
  rw [intact.ancestors_eq (isDeclared_of_mem_hostClasses isHost), isAbove]
  rfl

end Store

/-! ## Instances -/

/-- What an instance sees of a function that was put on its class: it is bound to the instance,
unless the instance keeps something of that name. -/
structure Sees (store : Store) (id : ClassId) (name : String) (function : Value) : Prop where
  plain : isSpecial name = false
  bound : ∀ call place, store.ownAttribute? (.object id place) name = none →
    store.partOf? (.object id place) name = none →
    (∀ object, store.object? place = some object →
      lateObjectAttribute? store (.object id place) object name = none) →
    (getAttribute call (.object id place) name).run store =
      (.ok (.bound (.object id place) function store.nextMark), Change.takeMark.apply store)
  hidden : ∀ call place kept, store.ownAttribute? (.object id place) name = some kept →
    (getAttribute call (.object id place) name).run store = (.ok kept, store)

theorem sees_of_classAttribute (inherits : store.Inherits id type name)
    (isThere : store.classAttribute? type name = some method)
    (isFunction : store.isFunction method = true) (plain : isSpecial name = false)
    (unhooked : ∀ place, special? store (.object id place) "__getattribute__" = none) :
    Sees store id name method where
  plain := plain
  bound call place own part late := by
    have free : name ∉ answeredNames := by
      have special : ∀ other ∈ answeredNames, isSpecial other = true := by decide
      exact fun isIn => ne_of_isSpecial plain (special name isIn) rfl
    exact run_getAttribute_function free (unhooked place) (find_of_inherits inherits isThere)
      isFunction own part late
  hidden call place kept own := by
    have leaves : leavesToInstance (store.find id name) = true := by
      rw [find_of_inherits inherits isThere]
      rfl
    exact run_getAttribute_own (unhooked place) leaves own

/-- An instance that is made of nothing but its attributes sees the function exactly if none of them
is called as it is. -/
theorem Sees.iff_of_plain (sees : Sees store id name method) (call : Caller)
    (stands : store.object? place = some .plain) :
    (getAttribute call (.object id place) name).run store =
        (.ok (.bound (.object id place) method store.nextMark), Change.takeMark.apply store) ↔
      name ∉ Entries.keys (store.attributesOf (.object id place)) := by
  rw [← Entries.get?_eq_none_iff]
  constructor
  · intro reads
    cases own : store.ownAttribute? (.object id place) name with
    | none => exact own
    | some kept =>
      rw [sees.hidden call place kept own] at reads
      have used := congrArg (fun outcome => outcome.2.marks) reads
      simp [Change.apply] at used
  · intro own
    refine sees.bound call place own ?_ ?_
    · simp [partOf?, objectOf?, stands]
    · rintro object isThere
      obtain rfl := Option.some.inj (stands.symm.trans isThere)
      have notDict : name ≠ "__dict__" := ne_of_isSpecial sees.plain (by decide)
      unfold lateObjectAttribute?
      split <;> simp_all

/-! ## Decorations -/

namespace Decoration

variable {root : String} {decoration : Decoration} {generation : Generation}

/-- From the end of the generation on, a decoration that succeeds leaves all objects alone. -/
theorem objects_of_run {plan : Plan} {between generated : Store}
    (faithful : Code.Faithful (HostTypes.reference root) plan generation generated)
    (expected : Expected generated generation)
    (equips : (equip (Action.machine decoration.depth) generation plan.signature.spans).run
      generated = (.ok (), between))
    {published : Store} (publishes : (publish generation).run between = (.ok (), published))
    (tells : (tell plan generation).run published = (.ok generation, after))
    {object : Object} (stands : generated.object? place = some object) :
    after.object? place = some object := by
  have puts := equip_eq_ok expected faithful.shows equips
  have keeps : ∀ place object, generated.object? place = some object →
      published.object? place = some object := by
    intro place object stands
    have same : published.object? place = generated.object? place := by
      rw [object?, object?, Store.cell?, Store.cell?, (publish_eq_ok publishes).1, puts.alike.cells]
    exact same.trans stands
  obtain ⟨home, function, isFunction, isThere⟩ := faithful.routine
  obtain ⟨_, again, -, kept⟩ := run_tell (HostTypes.reference root) plan
    (⟨home, function, isFunction, keeps _ _ isThere⟩ : HasRoutine published generation)
  rw [tells] at again
  cases again
  exact kept _ _ (keeps _ _ stands)

/-- A method that was put on a type of the reference host is seen by the instances of the type and
of the classes that inherit it, also by those that are made later, but for those that keep something
of that name. -/
theorem sees (intact : before.Intact) (checked : isRegular root decoration before = true)
    (runs : decoration.run.run before = (.ok generation, after))
    (isServed : type ∈ decoration.serves (HostTypes.reference root)) :
    ∃ method, generation.extensionMethod = some method ∧
      ∀ later id, after.Grows later → later.Inherits id type generation.method →
        (∀ place, special? later (.object id place) "__getattribute__" = none) →
          Sees later id generation.method method := by
  obtain ⟨⟨function, isRoutine⟩, planned⟩ := planned_of_isRegular checked
  obtain ⟨plan, between, published, prepares, publishes, tells⟩ := run_eq_ok runs
  obtain ⟨plans, generated, generates, equips⟩ := prepares_eq_ok prepares
  obtain ⟨sound, isBody, isHost, _, _, again, calm⟩ := planned plan plans
  rw [generates] at again
  cases again
  have expected := expected_of_isCalm calm
  rw [← isBody] at isRoutine
  obtain ⟨faithful, -⟩ := @Code.faithful_of_sound _ (HostTypes.reference root) _ _ _ _ _ _ isHost
    sound intact isRoutine generates
  obtain ⟨routed, _, _, made⟩ := Code.generate_eq_ok sound intact isRoutine generates
  have extended : Options.isOn decoration.keywords "no_trait" = false := by
    rw [serves, HostTypes.served] at isServed
    split at isServed
    · cases isServed
    · simp_all
  have sameOptions : routed.options = plan.options := by rw [made.isPlan]
  obtain ⟨home, _, chooser, isMethod, stands, -⟩ := made.carries.method
    (by rw [sameOptions, (leavesOut_of_planFor plans).2.1, extended])
  have stood := objects_of_run faithful expected equips publishes tells stands
  have takes := (leaves (regular_of_isRegular intact checked) runs).1 type
    (HostTypes.served_subset_all _ _ _ _ isServed) generation.method
  rw [if_pos ⟨rfl, isServed⟩, isMethod] at takes
  refine ⟨_, isMethod, fun later id grows inherits unhooked =>
    sees_of_classAttribute inherits ?_ ?_ expected.method unhooked⟩
  · rw [grows.classAttribute?_eq, takes]
  · simp [Store.isFunction, functionOf?, objectOf?, grows.object? stood]

/-- A handle that keeps nothing but its queue and its world sees the method of a command exactly if
the method is not called as one of them. -/
theorem handle_sees_iff (intact : before.Intact)
    (checked : isRegular root decoration before = true)
    (runs : decoration.run.run before = (.ok generation, after))
    (isServed : ClassId.commands ∈ decoration.serves (HostTypes.reference root)) :
    ∃ method, generation.extensionMethod = some method ∧
      ∀ later handle queue world, after.Grows later → later.Intact →
        later.Records handle queue →
        later.attributesOf (.object ClassId.commands handle) = handleParts queue world →
        ((getAttribute call (.object ClassId.commands handle) generation.method).run later =
            (.ok (.bound (.object ClassId.commands handle) method later.nextMark),
              Change.takeMark.apply later) ↔
          generation.method ≠ "_queue" ∧ generation.method ≠ "_world") := by
  obtain ⟨method, isMethod, seen⟩ := sees intact checked runs isServed
  refine ⟨method, isMethod, fun later handle queue world grows intactLater records parts => ?_⟩
  obtain ⟨isHost, -, isRoot⟩ := find_apply (.inl rfl : ClassId.commands = _ ∨ _)
  have sees := seen later ClassId.commands grows (inherits_self intactLater isHost) fun _ =>
    special?_of_intact intactLater isHost isRoot
  rw [sees.iff_of_plain call records.plain, parts]
  simp [handleParts, Entries.keys]

/-- Make a handle and read what it has under a name. -/
def readFromHandle (name : String) : Action Value := do
  let world ← (Action.machine 20).call (.ofClass ClassId.world) {}
  let queue ← (Action.machine 20).call (.ofClass ClassId.commandQueue) {}
  let handle ← (Action.machine 20).call (.ofClass ClassId.commands) (.ofList [queue, world])
  getAttribute (Action.machine 20).call handle name

/-- A command `_queue` is put on the type, and its handles still answer with their queue. -/
theorem hidden_method_is_installed :
    ((Publishes.decoratesAt 1).run.run (Publishes.twoRoutines "_queue" "pay")).1.isOk = true ∧
      ((Publishes.ofFirst "_queue" "pay").2.classAttribute? ClassId.commands "_queue").isSome =
        true ∧
      (match ((readFromHandle "_queue").run (Publishes.ofFirst "_queue" "pay").2).1 with
        | .ok (.object id _) => decide (id = ClassId.commandQueue)
        | _ => false) = true := by
  decide +kernel

end Decoration

end Deferred
