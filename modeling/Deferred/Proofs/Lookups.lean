import Deferred.Call.Attribute
import Deferred.Proofs.Host

/-!
# What a look-up depends on

Where two stores differ only in what classes and modules have under some plain names, looking up any
other name comes to the same in both.  Special names are the ones that look-ups of other names lead
on to, so these have to be the same too.
-/

namespace Deferred

namespace Store

/-- The names of a module, whether or not it can be found by its name. -/
def globals (store : Store) (module : String) : Namespace :=
  (store.modules.made.lookup module).getD (Host.installedExports module)

/-- No special name is a plain one. -/
theorem ne_of_isSpecial {name special : String} (plain : isSpecial name = false)
    (isOne : isSpecial special = true) : name ≠ special := by
  rintro rfl
  rw [plain] at isOne
  cases isOne

/-- Two stores that differ in nothing that can be looked up but what classes and modules have under
some plain names. -/
structure Alike (changed : List String) (before after : Store) : Prop where
  cells : after.cells = before.cells
  generated : after.generated = before.generated
  removed : after.removed = before.removed
  plain : ∀ name ∈ changed, isSpecial name = false
  classes : ∀ id name, name ∉ changed →
    after.classAttribute? id name = before.classAttribute? id name
  globals : ∀ module name, name ∉ changed →
    Entries.get? (after.globals module) name = Entries.get? (before.globals module) name

namespace Alike

variable {changed : List String} {before between after : Store} {name : String}

theorem refl (plain : ∀ name ∈ changed, isSpecial name = false) (store : Store) :
    Alike changed store store :=
  ⟨rfl, rfl, rfl, plain, fun _ _ _ => rfl, fun _ _ _ => rfl⟩

theorem trans (first : Alike changed before between) (second : Alike changed between after) :
    Alike changed before after where
  cells := second.cells.trans first.cells
  generated := second.generated.trans first.generated
  removed := second.removed.trans first.removed
  plain := first.plain
  classes id name free := (second.classes id name free).trans (first.classes id name free)
  globals module name free :=
    (second.globals module name free).trans (first.globals module name free)

theorem mono {more : List String} (alike : Alike changed before after) (within : changed ⊆ more)
    (plain : ∀ name ∈ more, isSpecial name = false) : Alike more before after where
  cells := alike.cells
  generated := alike.generated
  removed := alike.removed
  plain := plain
  classes id name free := alike.classes id name fun isChanged => free (within isChanged)
  globals module name free := alike.globals module name fun isChanged => free (within isChanged)

theorem special_notMem (alike : Alike changed before after) (special : isSpecial name = true) :
    name ∉ changed := fun isChanged =>
  ne_of_isSpecial (alike.plain name isChanged) special rfl

/-! ## Objects -/

theorem objectOf?_eq (alike : Alike changed before after) (value : Value) :
    after.objectOf? value = before.objectOf? value := by
  cases value <;> simp only [objectOf?, object?, cell?, alike.cells]

theorem ownAttribute?_eq (alike : Alike changed before after) (value : Value) (name : String) :
    after.ownAttribute? value name = before.ownAttribute? value name := by
  cases value <;> simp only [ownAttribute?, attributesOf, cell?, alike.cells]

theorem isFunction_eq (alike : Alike changed before after) (value : Value) :
    after.isFunction value = before.isFunction value := by
  cases value <;> simp only [isFunction, functionOf?, alike.objectOf?_eq]

theorem plainOf_eq (alike : Alike changed before after) (value : Value) :
    after.plainOf value = before.plainOf value := by
  simp only [plainOf, alike.objectOf?_eq]

theorem partOf?_eq (alike : Alike changed before after) (value : Value) (name : String) :
    after.partOf? value name = before.partOf? value name := by
  cases value <;> simp only [partOf?, alike.objectOf?_eq]

theorem property?_eq (alike : Alike changed before after) (value : Value) (owner : ClassId)
    (name : String) : after.property? value owner name = before.property? value owner name := by
  simp only [property?, standardPart?, exceptionPart?, alike.ownAttribute?_eq, alike.plainOf_eq,
    alike.objectOf?_eq]

theorem bindFound_eq (alike : Alike changed before after) (value : Value) :
    after.bindFound value = before.bindFound value := by
  funext found
  cases found <;> simp only [bindFound, alike.isFunction_eq]

/-! ## Classes -/

theorem ancestors_eq (alike : Alike changed before after) (id : ClassId) :
    after.ancestors id = before.ancestors id := by
  simp only [ancestors, alike.generated]

theorem ownFound?_eq (alike : Alike changed before after) (id : ClassId) (free : name ∉ changed) :
    after.ownFound? id name = before.ownFound? id name := by
  simp only [ownFound?, fieldMember?, recordFields?, alike.classes id name free, alike.generated,
    alike.removed]

theorem find_eq (alike : Alike changed before after) (id : ClassId) (free : name ∉ changed) :
    after.find id name = before.find id name := by
  simp only [find, referable?, alike.ancestors_eq, alike.ownFound?_eq _ free]

theorem givenName_eq (alike : Alike changed before after) (id : ClassId) {slot : String}
    (special : isSpecial slot = true) (otherwise : String) :
    after.givenName id slot otherwise = before.givenName id slot otherwise := by
  simp only [givenName, alike.classes id slot (alike.special_notMem special)]

theorem className_eq (alike : Alike changed before after) (id : ClassId) :
    after.className id = before.className id :=
  alike.givenName_eq id (by decide) _

theorem classQualname_eq (alike : Alike changed before after) (id : ClassId) :
    after.classQualname id = before.classQualname id :=
  alike.givenName_eq id (by decide) _

theorem fixedAttribute?_eq (alike : Alike changed before after) (id : ClassId)
    (free : name ∉ changed) : after.fixedAttribute? id name = before.fixedAttribute? id name := by
  simp only [fixedAttribute?, bases, alike.className_eq, alike.classQualname_eq,
    alike.ancestors_eq, alike.generated, alike.classes id name free]

theorem genericAttribute?_eq (alike : Alike changed before after) (id : ClassId) (name : String) :
    after.genericAttribute? id name = before.genericAttribute? id name := by
  simp only [genericAttribute?, typeVariablesOf?, bases, alike.ancestors_eq, alike.generated]

theorem typeAttribute?_eq (alike : Alike changed before after) (id : ClassId)
    (free : name ∉ changed) : after.typeAttribute? id name = before.typeAttribute? id name := by
  simp only [typeAttribute?, alike.fixedAttribute?_eq id free, alike.find_eq id free,
    alike.genericAttribute?_eq]

/-! ## Values -/

theorem instanceAttribute?_eq (alike : Alike changed before after) (value : Value)
    (free : name ∉ changed) :
    after.instanceAttribute? value name = before.instanceAttribute? value name := by
  simp only [instanceAttribute?, inherited?, alike.find_eq _ free, alike.property?_eq,
    alike.ownAttribute?_eq, alike.partOf?_eq, alike.typeAttribute?_eq _ free, alike.bindFound_eq]

theorem aliasAttribute?_eq (alike : Alike changed before after) (value : Value)
    (free : name ∉ changed) :
    after.aliasAttribute? value name = before.aliasAttribute? value name := by
  simp only [aliasAttribute?, alike.typeAttribute?_eq _ free]

/-- A look-up of another name comes to the same. -/
theorem attribute?_eq (alike : Alike changed before after) (value : Value) (free : name ∉ changed) :
    after.attribute? value name = before.attribute? value name := by
  cases value with
  | bound receiver function mark =>
    have ofFunction := attribute?_eq alike function free
    simp only [Store.attribute?, boundName, alike.classQualname_eq, alike.find_eq _ free,
      ofFunction, alike.instanceAttribute?_eq _ free]
  | module module =>
    have ofGlobals := alike.globals module name free
    rw [Store.globals, Store.globals] at ofGlobals
    simp only [Store.attribute?, ofGlobals, alike.instanceAttribute?_eq _ free]
  | _ =>
    simp only [Store.attribute?, alike.typeAttribute?_eq _ free, alike.aliasAttribute?_eq _ free,
      alike.instanceAttribute?_eq _ free]
termination_by sizeOf value

/-- Marks and notices are nothing that a look-up depends on. -/
theorem of_marks (plain : ∀ name ∈ changed, isSpecial name = false) (store : Store) (marks : Nat)
    (notices : List Notice) : Alike changed store { store with marks, notices } :=
  ⟨rfl, rfl, rfl, plain, fun _ _ _ => rfl, fun _ _ _ => rfl⟩

theorem special?_eq (alike : Alike changed before after) (value : Value) (free : name ∉ changed) :
    Action.special? after value name = Action.special? before value name := by
  simp only [Action.special?, alike.find_eq _ free]

end Alike

end Store

/-! ## Presence -/

/-- Is a value something?  Absence is nothing. -/
def Value.isPresent : Value → Bool
  | .absent => false
  | _ => true

namespace Store

/-- Does a value have something under a name, absence not counted? -/
def answers (store : Store) (value : Value) (name : String) : Bool :=
  (store.attribute? value name).any Value.isPresent

@[simp] theorem attribute?_marks (store : Store) (marks : Nat) (value : Value) (name : String) :
    Store.attribute? { store with marks } value name = store.attribute? value name :=
  (Alike.of_marks (by simp) store marks store.notices : Alike [] _ _).attribute?_eq value (by simp)

@[simp] theorem answers_marks (store : Store) (marks : Nat) (value : Value) (name : String) :
    Store.answers { store with marks } value name = store.answers value name := by
  simp only [answers, attribute?_marks]

theorem isPresent_bindFound (store : Store) (receiver other : Value) (found : Found) :
    (store.bindFound receiver found).isPresent = (store.bindFound other found).isPresent := by
  cases found with
  | value value =>
    simp only [bindFound]
    split <;> rfl
  | member owner name kind =>
    simp only [bindFound, classBound?]
    split
    · rfl
    · split <;> rfl

/-- Two methods bound to one receiver have something under the same names. -/
theorem answers_bound (store : Store) (receiver function : Value) (mark other : Mark)
    (name : String) :
    store.answers (.bound receiver function mark) name =
      store.answers (.bound receiver function other) name := by
  have sameClass : (Value.bound receiver function mark).classId =
      (Value.bound receiver function other).classId := rfl
  have inherited :
      (store.inherited? (.bound receiver function mark) name).any Value.isPresent =
        (store.inherited? (.bound receiver function other) name).any Value.isPresent := by
    simp only [inherited?, sameClass]
    split
    · rfl
    · rfl
    · cases store.find (Value.bound receiver function other).classId name with
      | none => rfl
      | some found => exact store.isPresent_bindFound _ _ found
  have ofInstance :
      (store.instanceAttribute? (.bound receiver function mark) name).any Value.isPresent =
        (store.instanceAttribute? (.bound receiver function other) name).any Value.isPresent := by
    simp only [instanceAttribute?, sameClass]
    split
    · rfl
    · rfl
    · exact inherited
  simp only [answers, Store.attribute?, sameClass]
  split <;> try rfl
  split
  · rfl
  · exact ofInstance

end Store

end Deferred
