import Deferred.Generation.Artifact
import Deferred.Proofs.Changes
import Deferred.Proofs.Growth

/-!
# The description of a generation

The object that describes a generation is made of new objects, and of the members of two
enumerations, which are made when they are first asked for.  Making it always comes to its end, and
leaves everything alone but these enumerations.
-/

namespace Deferred

open Store Action

/-- The classes whose members are made when they are first asked for. -/
def Store.enumerations : List ClassId := [ClassId.parameterKind, ClassId.mode]

/-- Between two stores objects were added, and no class but the enumerations changed. -/
structure Store.Describes (before after : Store) : Prop where
  objects : ∀ place object, before.object? place = some object →
    after.object? place = some object
  classes : ∀ id ∉ Store.enumerations, ∀ name,
    after.classAttribute? id name = before.classAttribute? id name
  modules : after.modules = before.modules

namespace Store.Describes

variable {before between after : Store}

theorem of_grows (grows : before.Grows after) : before.Describes after where
  objects _ _ stands := grows.object? stands
  classes _ _ _ := grows.classAttribute?_eq _ _
  modules := grows.modules_eq

theorem trans (first : before.Describes between) (second : between.Describes after) :
    before.Describes after where
  objects place object stands := second.objects place object (first.objects place object stands)
  classes id isOther name := by rw [second.classes id isOther, first.classes id isOther]
  modules := second.modules.trans first.modules

theorem setMember (store : Store) {id : ClassId} (isEnumeration : id ∈ Store.enumerations)
    (name : String) (value : Value) :
    store.Describes ((Change.setClassAttribute id name value).apply store) where
  objects _ _ stands := stands
  classes other isOther part := by
    refine classAttribute?_setClassAttribute_of_ne store value (.inl ?_)
    rintro rfl
    exact isOther isEnumeration
  modules := rfl

end Store.Describes

namespace Action

variable {α β : Type}

/-- An action that comes to an answer and only describes. -/
def Describing (action : Action α) : Prop :=
  ∀ store, ∃ value after, action.run store = (.ok value, after) ∧ store.Describes after

namespace Describing

theorem done (value : α) : (Action.done value).Describing := fun store =>
  ⟨value, store, rfl, .of_grows (.refl store)⟩

theorem allocate (id : ClassId) (object : Object) (attributes : Bindings) :
    (Action.allocate id object attributes).Describing := fun store =>
  ⟨_, _, rfl, .of_grows (.allocate store object attributes)⟩

theorem bind {action : Action α} {next : α → Action β} (first : action.Describing)
    (second : ∀ value, (next value).Describing) : (action.bind next).Describing := by
  intro store
  obtain ⟨value, between, runs, describes⟩ := first store
  obtain ⟨answer, after, runsOn, describesToo⟩ := second value between
  exact ⟨answer, after, by rw [run_bind_of_ok runs, runsOn], describes.trans describesToo⟩

theorem store_bind {next : Store → Action α} (each : ∀ store, (next store).Describing) :
    (Action.store.bind next).Describing := fun store => each store store

end Describing

/-- Making the members of an enumeration leaves it with a member of each name. -/
theorem run_members {id : ClassId} (isEnumeration : id ∈ enumerations) (members : List Member)
    (before : Store) :
    ∃ after, (forEach members fun member => do
        let made ← Action.allocate id member.object
          [("name", .ofText member.name), ("value", member.value)]
        perform (.setClassAttribute id member.name made)).run before = (.ok (), after) ∧
      before.Describes after ∧
      ∀ name, (before.classAttribute? id name).isSome = true ∨ name ∈ members.map Member.name →
        (after.classAttribute? id name).isSome = true := by
  induction members generalizing before with
  | nil => exact ⟨before, rfl, .of_grows (.refl before), by simp⟩
  | cons member rest ih =>
    generalize isMade : (Change.setClassAttribute id member.name
      (.object id before.cells.size)).apply ((Change.allocate member.object
        [("name", .ofText member.name), ("value", member.value)]).apply before) = between
    have grows := Grows.allocate before member.object
      [("name", .ofText member.name), ("value", member.value)]
    have describes : before.Describes between :=
      isMade ▸ (Describes.of_grows grows).trans (.setMember _ isEnumeration _ _)
    obtain ⟨after, makes, describesToo, named⟩ := ih between
    refine ⟨after, ?_, describes.trans describesToo, fun name isNamed => named name ?_⟩
    · rw [forEach_cons]
      simp only [bind_eq, Action.bind_assoc, run_allocate_bind, run_perform_bind]
      rw [isMade]
      exact makes
    · have own : between.classAttribute? id name =
          if name = member.name then some (.object id before.cells.size)
          else before.classAttribute? id name := by
        rw [← isMade]
        split
        · rename_i same
          rw [same, classAttribute?_setClassAttribute]
        · rename_i apart
          rw [classAttribute?_setClassAttribute_of_ne _ _ (.inr apart), grows.classAttribute?_eq]
      rw [own]
      rcases isNamed with isThere | isOne
      · split
        · exact .inl rfl
        · exact .inl isThere
      · rcases List.mem_cons.mp isOne with same | isLater
        · rw [if_pos same]
          exact .inl rfl
        · exact .inr isLater

/-- A member of an enumeration is there when it is asked for. -/
theorem describing_memberNamed {id : ClassId} (isEnumeration : id ∈ enumerations)
    {members : List Member} {name : String} (isMember : name ∈ members.map Member.name) :
    (memberNamed id members name).Describing := by
  intro store
  simp only [memberNamed, bind_eq, run_store_bind]
  cases isThere : store.classAttribute? id name with
  | some member => exact ⟨member, store, rfl, .of_grows (.refl store)⟩
  | none =>
    obtain ⟨after, makes, describes, named⟩ := run_members isEnumeration members store
    obtain ⟨member, isNow⟩ := Option.isSome_iff_exists.mp (named name (.inr isMember))
    refine ⟨member, after, ?_, describes⟩
    simp only [bind_eq] at makes ⊢
    rw [run_bind_of_ok makes]
    simp only [run_store_bind, isNow]
    rfl

theorem describing_newKind (kind : ParameterKind) : (newKind kind).Describing :=
  describing_memberNamed (by decide) (by cases kind <;> decide)

theorem describing_newMode (mode : Mode) : (newMode mode).Describing :=
  describing_memberNamed (by decide) (by cases mode <;> decide)

theorem describing_newParameters (parameters : List Parameter) :
    (newParameters parameters).Describing := by
  induction parameters with
  | nil => exact .done _
  | cons parameter rest ih =>
    exact .bind (describing_newKind _) fun _ => .bind (.allocate _ _ _) fun _ =>
      .bind ih fun _ => .done _

theorem describing_newPlaces (places : List (String × Span)) : (newPlaces places).Describing := by
  induction places with
  | nil => exact .done _
  | cons place rest ih => exact .bind (.allocate _ _ _) fun _ => .bind ih fun _ => .done _

theorem describing_newFields (fields : List Field) : (newFields fields).Describing := by
  induction fields with
  | nil => exact .done _
  | cons field rest ih => exact .bind (.allocate _ _ _) fun _ => .bind ih fun _ => .done _

theorem describing_newSourceMap (isRead : Bool) (spans : SourceMap) :
    (newSourceMap isRead spans).Describing := by
  have table : ∀ places, ((newPlaces places).bind fun entries =>
      if isRead then newDict entries else newView entries).Describing := by
    intro places
    refine .bind (describing_newPlaces places) fun entries => ?_
    split
    · exact .allocate _ _ _
    · exact .allocate _ _ _
  refine .bind (table _) fun _ => ?_
  cases spans.returns with
  | some span =>
    exact .bind (.allocate _ _ _) fun _ => .bind (table _) fun _ => .allocate _ _ _
  | none => exact .bind (.done _) fun _ => .bind (table _) fun _ => .allocate _ _ _

theorem describing_newSpecification (body : Value) (signature : Signature) :
    (newSpecification body signature).Describing :=
  .store_bind fun _ => .bind (describing_newParameters _) fun _ =>
    .bind (describing_newSourceMap _ _) fun _ => .allocate _ _ _

/-- A generation can always be described. -/
theorem describing_newArtifact (plan : Plan) (generation : Generation) :
    (newArtifact plan generation).Describing :=
  .bind (describing_newSpecification _ _) fun _ => .bind (.allocate _ _ _) fun _ =>
    .bind (.allocate _ _ _) fun _ => .bind (describing_newMode _) fun _ =>
      .bind (describing_newFields _) fun _ => .bind (.allocate _ _ _) fun _ => .allocate _ _ _

end Action

end Deferred
