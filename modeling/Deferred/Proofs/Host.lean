import Deferred.Code.Record
import Deferred.Proofs.Growth

/-!
# An untouched host

Commands rely on the classes of the reference host and on those the language brings along.  The
host is untouched as long as nothing was put over a member of these classes, and no special method
was put on them; methods of commands and other attributes may have been added.
-/

namespace Deferred

/-- The classes that commands rely on. -/
def Store.hostClasses : List ClassId :=
  [ClassId.object, ClassId.type, ClassId.abstract, ClassId.abstractMeta, ClassId.generic,
    ClassId.partialCall, ClassId.world, ClassId.localWorld, ClassId.entityAccess, ClassId.commands,
    ClassId.localCommands, ClassId.entityCommands, ClassId.commandQueue, ClassId.query,
    ClassId.command, ClassId.entityCommand, ClassId.scopedCommand, ClassId.outcome,
    ClassId.success, ClassId.failure]

/-- Is a name a special one, with two underscores at both ends? -/
def Store.isSpecial (name : String) : Bool :=
  ['_', '_'].isPrefixOf name.toList && ['_', '_'].isPrefixOf name.toList.reverse

/-- Does a class have a name from the start, or would the name have a meaning of its own on it? -/
def Store.isKept (id : ClassId) (name : String) : Bool :=
  (({} : Store).find id name).isSome || isSpecial name

theorem Value.eq_cls_of_isClass {value : Value} {id : ClassId} (same : value.isClass id = true) :
    value = .cls id := by
  cases value with
  | cls other => rw [of_decide_eq_true same]
  | _ => simp [Value.isClass] at same

/-- The number that a class got when it was declared. -/
def ClassId.number? : ClassId → Option Nat
  | .declared _ _ => .none
  | .record serial _ _ _ => some serial
  | .extension serial _ _ _ => some serial

/-- The host is as it was from the start, apart from what was added to it. -/
structure Store.Intact (store : Store) : Prop where
  declared : ∀ home name, Entries.get? store.generated (.declared home name) = none
  unchanged : ∀ id ∈ hostClasses, ∀ name, isKept id name = true →
    ∀ parent ∈ ({} : Store).ancestors id,
      store.classAttribute? parent name = none ∧ (parent, name) ∉ store.removed
  /-- What says more than a default is no attribute of a class once the class is there. -/
  settled : ∀ home owner name value,
    store.classAttribute? (.declared home owner) name = some value →
      value.classId ≠ ClassId.fieldOptions
  /-- Nothing is known of classes that are still to be declared. -/
  numbered : ∀ id number, id.number? = some number → store.generated.length ≤ number →
    Entries.get? store.generated id = none ∧ Entries.get? store.attributes id = none

namespace Store

variable {store : Store}

/-- Is a class one of those known from the start? -/
def isDeclared : ClassId → Bool
  | .declared _ _ => true
  | _ => false

/-- The classes above a class known from the start do not depend on the store. -/
theorem Intact.ancestors_eq (intact : store.Intact) {id : ClassId} (isKnown : isDeclared id) :
    store.ancestors id = ({} : Store).ancestors id := by
  cases id with
  | declared home name =>
    rw [Store.ancestors, intact.declared]
    rfl
  | _ => simp [isDeclared] at isKnown

theorem isDeclared_of_mem_hostClasses {id : ClassId} (isHost : id ∈ hostClasses) :
    isDeclared id = true := by
  revert id
  decide

theorem isDeclared_of_mem_ancestors {id parent : ClassId} (isHost : id ∈ hostClasses)
    (isAbove : parent ∈ ({} : Store).ancestors id) : isDeclared parent = true := by
  revert parent
  revert id
  decide

/-- What an empty store finds on a class known from the start. -/
theorem ownFound?_empty (id : ClassId) (name : String) :
    ({} : Store).ownFound? id name = (id.members.lookup name).map (memberOf id name) := rfl

/-- What a class known from the start has itself, where nothing was put over it. -/
theorem Intact.ownFound?_eq (intact : store.Intact) {id : ClassId} {name : String}
    (isKnown : isDeclared id) (free : store.classAttribute? id name = none)
    (present : (id, name) ∉ store.removed) :
    store.ownFound? id name = ({} : Store).ownFound? id name := by
  cases id with
  | declared home owner =>
    have plain : store.fieldMember? (.declared home owner) name = none := by
      rw [fieldMember?, recordFields?, intact.declared]
      rfl
    rw [ownFound?_empty, ownFound?, free, plain]
    simp [present]
  | _ => simp [isDeclared] at isKnown

/-- What is found first in a list depends on what is found for its items. -/
theorem findSome?_congr {α β : Type} {items : List α} {first second : α → Option β}
    (alike : ∀ item ∈ items, first item = second item) :
    items.findSome? first = items.findSome? second := by
  induction items with
  | nil => rfl
  | cons item rest ih =>
    rw [List.findSome?_cons, List.findSome?_cons, alike item List.mem_cons_self,
      ih fun other isIn => alike other (List.mem_cons_of_mem _ isIn)]

/-- Members of the host are found as they are from the start. -/
theorem Intact.find_eq (intact : store.Intact) {id : ClassId} {name : String}
    (isHost : id ∈ hostClasses) (kept : isKept id name = true) :
    store.find id name = ({} : Store).find id name := by
  have above := intact.ancestors_eq (isDeclared_of_mem_hostClasses isHost)
  have own : ∀ parent ∈ ({} : Store).ancestors id,
      store.ownFound? parent name = ({} : Store).ownFound? parent name := by
    intro parent isAbove
    obtain ⟨free, present⟩ := intact.unchanged id isHost name kept parent isAbove
    exact intact.ownFound?_eq (isDeclared_of_mem_ancestors isHost isAbove) free present
  have first : (store.ancestors id).findSome? (store.ownFound? · name) =
      (({} : Store).ancestors id).findSome? (({} : Store).ownFound? · name) := by
    rw [above]
    exact findSome?_congr own
  rw [find, find, first, referable?, above]
  rfl

/-- What is found on a class known from the start, where it has nothing of that name from the start,
was put there. -/
theorem Intact.eq_value_of_find (intact : store.Intact) {id : ClassId}
    {name : String} (isKnown : isDeclared id) (known : ∀ parent ∈ ({} : Store).ancestors id,
      isDeclared parent) (unknown : ({} : Store).find id name = none) {found : Found}
    (isFound : store.find id name = some found) : ∃ value, found = .value value := by
  have above := intact.ancestors_eq isKnown
  have noneFirst : (({} : Store).ancestors id).findSome? (({} : Store).ownFound? · name) = none := by
    rw [find] at unknown
    split at unknown
    · cases unknown
    · assumption
  have own : ∀ parent ∈ ({} : Store).ancestors id, ∀ found,
      store.ownFound? parent name = some found → ∃ value, found = .value value := by
    intro parent isAbove found isOwn
    cases isPut : store.classAttribute? parent name with
    | some value =>
      rw [ownFound?, isPut] at isOwn
      exact ⟨value, (Option.some.inj isOwn).symm⟩
    | none =>
      have noneOwn := List.findSome?_eq_none_iff.mp noneFirst parent isAbove
      by_cases isRemoved : (parent, name) ∈ store.removed
      · simp [ownFound?, isPut, isRemoved] at isOwn
      · rw [intact.ownFound?_eq (known parent isAbove) isPut isRemoved, noneOwn] at isOwn
        cases isOwn
  rw [find, above] at isFound
  split at isFound
  · rename_i first isFirst
    obtain rfl := Option.some.inj isFound
    obtain ⟨parent, isAbove, isOwn⟩ := List.exists_of_findSome?_eq_some isFirst
    exact own parent isAbove _ isOwn
  · rw [find, noneFirst] at unknown
    have refers : store.referable? id = ({} : Store).referable? id := by
      rw [referable?, referable?, above]
    rw [refers] at isFound
    rw [isFound] at unknown
    cases unknown

/-- A host that is untouched stays so while a store only grows. -/
theorem Intact.of_grows {before after : Store} (intact : before.Intact)
    (grows : before.Grows after) : after.Intact where
  declared home name := by
    rw [grows.generated_eq]
    exact intact.declared home name
  unchanged id isHost name kept parent isAbove := by
    rw [grows.classAttribute?_eq, grows.removed_eq]
    exact intact.unchanged id isHost name kept parent isAbove
  settled home owner name value := by
    rw [grows.classAttribute?_eq]
    exact intact.settled home owner name value
  numbered id number := by
    rw [grows.generated_eq, grows.attributes_eq]
    exact intact.numbered id number

end Store

end Deferred
