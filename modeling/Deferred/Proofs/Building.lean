import Deferred.Proofs.Changes
import Deferred.Proofs.Functions

/-!
# What assembling leaves alone

While the code of a command runs, it puts new objects into the store, binds names in its own space,
and declares classes.  Everything else stays what it was: the objects that were there before, the
functions that were made, the classes that are made of fields, and all classes that were not
generated.
-/

namespace Deferred

open Store

/-- A class goes by the same name where it has the same under `__name__`. -/
theorem Store.className_eq_of_classAttribute? {before after : Store} {id : ClassId}
    (same : after.classAttribute? id "__name__" = before.classAttribute? id "__name__") :
    after.className id = before.className id := by
  rw [className, className, givenName, givenName, same]

/-- One store comes from another by running generated code in a space: names are bound among
`written`, and no function changes what it does, except those at the places `opened`. -/
structure Store.Builds (space : Ref) (written : List String) (opened : List Ref)
    (before after : Store) : Prop where
  size : before.cells.size ≤ after.cells.size
  old : ∀ place < space, place < before.cells.size → after.cell? place = before.cell? place
  names : ∀ bound, before.object? space = some (.space bound) →
    ∃ more, after.object? space = some (.space more) ∧
      ∀ name ∉ written, Entries.get? more name = Entries.get? bound name
  objects : ∀ place object, place ≠ space → before.object? place = some object →
    (∀ function, object ≠ .function function) → after.object? place = some object
  functions : ∀ place function, place ∉ opened →
    before.object? place = some (.function function) →
    ∃ changed, after.object? place = some (.function changed) ∧
      changed.parameters = function.parameters ∧ changed.body = function.body
  declared : ∀ id declared, Entries.get? before.generated id = some declared →
    ∃ again, Entries.get? after.generated id = some again ∧
      again.ancestors = declared.ancestors ∧ again.fields = declared.fields ∧
      again.settles = declared.settles
  attributes : ∀ id declared name, Entries.get? before.generated id = some declared →
    declared.fields.isSome → name ≠ generatedMark →
    after.classAttribute? id name = before.classAttribute? id name
  present : ∀ id declared name, Entries.get? before.generated id = some declared →
    (id, name) ∉ before.removed → (id, name) ∉ after.removed
  hosts : before.Intact → ∀ home name part,
    after.classAttribute? (.declared home name) part =
      before.classAttribute? (.declared home name) part
  named : ∀ id declared, Entries.get? before.generated id = some declared →
    after.className id = before.className id
  modules : after.modules = before.modules
  intact : before.Intact → after.Intact

namespace Store.Builds

variable {before between after : Store} {space : Ref} {written more : List String}
  {opened others : List Ref}

theorem refl (store : Store) : store.Builds space written opened store where
  size := Nat.le_refl _
  old _ _ _ := rfl
  names bound isSpace := ⟨bound, isSpace, fun _ _ => rfl⟩
  objects _ _ _ stands _ := stands
  functions _ function _ stands := ⟨function, stands, rfl, rfl⟩
  declared _ declared isDeclared := ⟨declared, isDeclared, rfl, rfl, rfl⟩
  attributes _ _ _ _ _ _ := rfl
  present _ _ _ _ isPresent := isPresent
  hosts _ _ _ _ := rfl
  named _ _ _ := rfl
  modules := rfl
  intact intact := intact

theorem trans (first : before.Builds space written opened between)
    (second : between.Builds space more others after) :
    before.Builds space (written ++ more) (opened ++ others) after where
  size := Nat.le_trans first.size second.size
  old place isOld within := by
    rw [second.old place isOld (Nat.lt_of_lt_of_le within first.size), first.old place isOld within]
  names bound isSpace := by
    obtain ⟨middle, isMiddle, same⟩ := first.names bound isSpace
    obtain ⟨last, isLast, sameAgain⟩ := second.names middle isMiddle
    refine ⟨last, isLast, ?_⟩
    intro name isOut
    simp only [List.mem_append, not_or] at isOut
    rw [sameAgain name isOut.2, same name isOut.1]
  objects place object apart stands notFunction :=
    second.objects place object apart (first.objects place object apart stands notFunction)
      notFunction
  functions place function closed stands := by
    simp only [List.mem_append, not_or] at closed
    obtain ⟨changed, stands, takes, does⟩ := first.functions place function closed.1 stands
    obtain ⟨last, stands, takesToo, doesToo⟩ := second.functions place changed closed.2 stands
    exact ⟨last, stands, takesToo.trans takes, doesToo.trans does⟩
  declared id declared isDeclared := by
    obtain ⟨middle, isMiddle, above, fields, settles⟩ := first.declared id declared isDeclared
    obtain ⟨last, isLast, aboveToo, fieldsToo, settlesToo⟩ := second.declared id middle isMiddle
    exact ⟨last, isLast, aboveToo.trans above, fieldsToo.trans fields, settlesToo.trans settles⟩
  attributes id declared name isDeclared isRecord unmarked := by
    obtain ⟨middle, isMiddle, -, fields, -⟩ := first.declared id declared isDeclared
    rw [second.attributes id middle name isMiddle (by rw [fields]; exact isRecord) unmarked,
      first.attributes id declared name isDeclared isRecord unmarked]
  present id declared name isDeclared isPresent := by
    obtain ⟨middle, isMiddle, -⟩ := first.declared id declared isDeclared
    exact second.present id middle name isMiddle
      (first.present id declared name isDeclared isPresent)
  hosts intact home name part := by
    rw [second.hosts (first.intact intact), first.hosts intact]
  named id declared isDeclared := by
    obtain ⟨middle, isMiddle, -⟩ := first.declared id declared isDeclared
    exact (second.named id middle isMiddle).trans (first.named id declared isDeclared)
  modules := second.modules.trans first.modules
  intact intact := second.intact (first.intact intact)

/-- What binds fewer names and changes fewer functions also binds more and changes more. -/
theorem mono (builds : before.Builds space written opened after)
    (wider : ∀ name ∈ written, name ∈ more) (looser : ∀ place ∈ opened, place ∈ others) :
    before.Builds space more others after :=
  { builds with
    names := by
      intro bound isSpace
      obtain ⟨last, isLast, same⟩ := builds.names bound isSpace
      exact ⟨last, isLast, fun name isOut => same name fun isIn => isOut (wider name isIn)⟩
    functions := fun place function closed stands =>
      builds.functions place function (fun isOpen => closed (looser place isOpen)) stands }

theorem of_grows (grows : before.Grows after) : before.Builds space written opened after where
  size := grows.size_le
  old place _ within := grows.cell?_eq within
  names bound isSpace := ⟨bound, grows.object? isSpace, fun _ _ => rfl⟩
  objects _ _ _ stands _ := grows.object? stands
  functions _ function _ stands := ⟨function, grows.object? stands, rfl, rfl⟩
  declared _ declared isDeclared := by
    rw [grows.generated_eq]
    exact ⟨declared, isDeclared, rfl, rfl, rfl⟩
  attributes id _ name _ _ _ := grows.classAttribute?_eq id name
  present id _ name _ isPresent := by
    rw [grows.removed_eq]
    exact isPresent
  hosts _ home name part := grows.classAttribute?_eq _ part
  named id _ _ := className_eq_of_classAttribute? (grows.classAttribute?_eq id _)
  modules := grows.modules_eq
  intact intact := intact.of_grows grows

/-- What only grew had no name bound and no function changed. -/
theorem closed_of_grows (space : Ref) (grows : before.Grows after) :
    before.Builds space [] [] after := of_grows grows

/-! ## Changes of objects -/

/-- Changing the cell at one place leaves the classes alone. -/
theorem intact_modifyCell {store : Store} {place : Ref} {change : Cell → Cell}
    (intact : store.Intact) : (store.modifyCell place change).Intact :=
  ⟨intact.declared, intact.unchanged, intact.settled, intact.numbered⟩

/-- Changing an object that came after the space, and no function among those that stay. -/
theorem of_modifyCell {store : Store} {place : Ref} {change : Cell → Cell} {cell : Cell}
    (stands : store.cell? place = some cell) (isNew : space < place)
    (kept : (∃ function changed, cell.object = .function function ∧
        (change cell).object = .function changed ∧
        (place ∈ opened ∨
          changed.parameters = function.parameters ∧ changed.body = function.body)) ∨
      (change cell).object = cell.object) :
    store.Builds space written opened (store.modifyCell place change) where
  size := Nat.le_of_eq (size_modifyCell change).symm
  old other isOld _ := cell?_modifyCell_of_ne change (Nat.ne_of_lt (Nat.lt_trans isOld isNew))
  names bound isSpace := by
    refine ⟨bound, ?_, fun _ _ => rfl⟩
    rw [object?_modifyCell_of_ne change (Nat.ne_of_lt isNew), isSpace]
  objects other object _ isObject notFunction := by
    by_cases same : other = place
    · subst same
      rw [object?, stands] at isObject
      cases isObject
      rw [object?, cell?_modifyCell, stands]
      rcases kept with ⟨function, changed, isFunction, -⟩ | same
      · exact absurd isFunction (notFunction function)
      · simp [same]
    · rw [object?_modifyCell_of_ne change same, isObject]
  functions other function closed isFunction := by
    by_cases same : other = place
    · subst same
      rw [object?, stands] at isFunction
      rw [object?, cell?_modifyCell, stands]
      rcases kept with ⟨before, changed, wasFunction, isChanged, isOpen | ⟨takes, does⟩⟩ | same
      · exact absurd isOpen closed
      · have sameFunction : before = function := by
          simpa [wasFunction] using isFunction
        subst sameFunction
        exact ⟨changed, by simp [isChanged], takes, does⟩
      · refine ⟨function, ?_, rfl, rfl⟩
        simpa [same] using isFunction
    · exact ⟨function, by rw [object?_modifyCell_of_ne change same, isFunction], rfl, rfl⟩
  declared _ declared isDeclared := ⟨declared, isDeclared, rfl, rfl, rfl⟩
  attributes _ _ _ _ _ _ := rfl
  present _ _ _ _ isPresent := isPresent
  hosts _ _ _ _ := rfl
  named _ _ _ := rfl
  modules := rfl
  intact := intact_modifyCell

/-- Binding a name in the space. -/
theorem setName (space : Ref) (store : Store) (name : String) (value : Value) :
    store.Builds space [name] [] ((Change.setName space name value).apply store) where
  size := Nat.le_of_eq (size_modifyCell _).symm
  old other isOld _ := cell?_modifyCell_of_ne _ (Nat.ne_of_lt isOld)
  names bound isSpace := by
    refine ⟨Entries.put bound name value, ?_, ?_⟩
    · rw [Change.apply, object?_modifyObject, isSpace]
      rfl
    · intro other isOut
      exact Entries.get?_put_of_ne bound value (by simpa using isOut)
  objects other object apart isObject _ := by
    rw [Change.apply, object?_modifyObject_of_ne _ apart, isObject]
  functions other function _ isFunction := by
    refine ⟨function, ?_, rfl, rfl⟩
    by_cases same : other = space
    · subst same
      rw [Change.apply, object?_modifyObject, isFunction]
      rfl
    · rw [Change.apply, object?_modifyObject_of_ne _ same, isFunction]
  declared _ declared isDeclared := ⟨declared, isDeclared, rfl, rfl, rfl⟩
  attributes _ _ _ _ _ _ := rfl
  present _ _ _ _ isPresent := isPresent
  hosts _ _ _ _ := rfl
  named _ _ _ := rfl
  modules := rfl
  intact := intact_modifyCell

/-! ## Changes of classes -/

/-- A class that generated code declared has a number, which was given out. -/
theorem number?_of_intact {store : Store} {id : ClassId} {declared : GeneratedClass}
    (intact : store.Intact) (isDeclared : Entries.get? store.generated id = some declared) :
    ∃ number, id.number? = some number ∧ number < store.generated.length := by
  have numbered : ∃ number, id.number? = some number := by
    cases id with
    | declared home name =>
      rw [intact.declared] at isDeclared
      cases isDeclared
    | record serial => exact ⟨serial, rfl⟩
    | extension serial => exact ⟨serial, rfl⟩
  obtain ⟨number, isNumber⟩ := numbered
  refine ⟨number, isNumber, ?_⟩
  by_contra tooLarge
  have unknown := (intact.numbered id number isNumber (Nat.le_of_not_lt tooLarge)).1
  rw [isDeclared] at unknown
  cases unknown

theorem declared_ne_of_number? {id : ClassId} {number : Nat} (isNumber : id.number? = some number)
    (home name : String) : ClassId.declared home name ≠ id := by
  rintro rfl
  cases isNumber

theorem ne_of_number?_lt {id other : ClassId} {number count : Nat}
    (isNumber : id.number? = some number) (isCount : other.number? = some count)
    (isLater : number < count) : other ≠ id := by
  rintro rfl
  rw [isNumber] at isCount
  cases isCount
  exact Nat.lt_irrefl _ isLater

theorem ne_of_mem_ancestors {id parent other : ClassId} {number : Nat}
    (isNumber : id.number? = some number) (isHost : other ∈ hostClasses)
    (isAbove : parent ∈ ({} : Store).ancestors other) : parent ≠ id := by
  rintro rfl
  have isKnown := isDeclared_of_mem_ancestors isHost isAbove
  cases parent <;> simp_all [Store.isDeclared, ClassId.number?]

/-- The host stays untouched when an attribute is set on a class that was declared. -/
theorem intact_setClassAttribute {store : Store} {id : ClassId} {declared : GeneratedClass}
    (name : String) (value : Value)
    (isDeclared : Entries.get? store.generated id = some declared) (intact : store.Intact) :
    ((Change.setClassAttribute id name value).apply store).Intact := by
  obtain ⟨number, isNumber, given⟩ := number?_of_intact intact isDeclared
  refine ⟨intact.declared, ?_, ?_, ?_⟩
  · intro other isHost part kept parent isAbove
    rw [classAttribute?_setClassAttribute_of_ne store value
      (.inl (ne_of_mem_ancestors isNumber isHost isAbove))]
    exact intact.unchanged other isHost part kept parent isAbove
  · intro home owner part content isPut
    have apart := declared_ne_of_number? isNumber home owner
    rw [classAttribute?_setClassAttribute_of_ne store value (.inl apart)] at isPut
    exact intact.settled home owner part content isPut
  · intro other count isCount tooLarge
    obtain ⟨unknown, bare⟩ := intact.numbered other count isCount tooLarge
    refine ⟨unknown, ?_⟩
    have apart := ne_of_number?_lt isNumber isCount (Nat.lt_of_lt_of_le given tooLarge)
    rw [Change.apply, modifyClass, Entries.get?_put_of_ne _ _ apart, bare]

/-- Setting an attribute of a class that was declared: of one that is not made of fields, or the
mark of what was generated.  The class goes by the name that it had. -/
theorem setClassAttribute {store : Store} {id : ClassId} {declared : GeneratedClass}
    {name : String} (value : Value) (isDeclared : Entries.get? store.generated id = some declared)
    (loose : declared.fields = none ∨ name = generatedMark)
    (keepsName : ((Change.setClassAttribute id name value).apply store).className id =
      store.className id) :
    store.Builds space written opened ((Change.setClassAttribute id name value).apply store) where
  size := Nat.le_refl _
  old _ _ _ := rfl
  names bound isSpace := ⟨bound, isSpace, fun _ _ => rfl⟩
  objects _ _ _ stands _ := stands
  functions _ function _ stands := ⟨function, stands, rfl, rfl⟩
  declared _ declared isDeclared := ⟨declared, isDeclared, rfl, rfl, rfl⟩
  attributes other again part isAgain isRecord unmarked := by
    apply classAttribute?_setClassAttribute_of_ne
    rcases loose with plain | isMark
    · left
      rintro rfl
      rw [isDeclared] at isAgain
      cases isAgain
      simp [plain] at isRecord
    · right
      rintro rfl
      exact unmarked isMark
  present _ _ _ _ isPresent := isPresent
  hosts intact home owner part := by
    refine classAttribute?_setClassAttribute_of_ne store value (.inl ?_)
    rintro rfl
    rw [intact.declared] at isDeclared
    cases isDeclared
  named other _ _ := by
    by_cases same : other = id
    · rw [same, keepsName]
    · exact className_eq_of_classAttribute?
        (classAttribute?_setClassAttribute_of_ne store value (.inl same))
  modules := rfl
  intact := intact_setClassAttribute name value isDeclared

/-- The host stays untouched when a class with the next number, or one that was declared, is
declared. -/
theorem intact_declareClass {store : Store} {id : ClassId} {number : Nat}
    (declared : GeneratedClass) (isNumber : id.number? = some number)
    (isNext : number ≤ store.generated.length) (intact : store.Intact) :
    ((Change.declareClass id declared).apply store).Intact := by
  have grown : store.generated.length ≤
      (Entries.put store.generated id declared).length ∧
      (number = store.generated.length →
        store.generated.length < (Entries.put store.generated id declared).length) := by
    rw [Entries.length_put]
    split
    · rename_i present
      refine ⟨Nat.le_refl _, fun isLast => ?_⟩
      rw [Entries.has, (intact.numbered id number isNumber (Nat.le_of_eq isLast.symm)).1] at present
      cases present
    · exact ⟨Nat.le_succ _, fun _ => Nat.lt_succ_self _⟩
  refine ⟨?_, ?_, intact.settled, ?_⟩
  · intro home name
    rw [Change.apply, Entries.get?_put_of_ne _ _ (declared_ne_of_number? isNumber home name)]
    exact intact.declared home name
  · intro other isHost part kept parent isAbove
    obtain ⟨free, present⟩ := intact.unchanged other isHost part kept parent isAbove
    exact ⟨free, fun isRemoved => present (List.mem_of_mem_filter isRemoved)⟩
  · intro other count isCount tooLarge
    obtain ⟨unknown, bare⟩ := intact.numbered other count isCount
      (Nat.le_trans grown.1 tooLarge)
    refine ⟨?_, bare⟩
    have apart : other ≠ id := by
      rintro rfl
      rw [isNumber] at isCount
      cases isCount
      have isLast : number = store.generated.length :=
        Nat.le_antisymm isNext (Nat.le_trans grown.1 tooLarge)
      exact absurd (grown.2 isLast) (Nat.not_lt.mpr (isLast ▸ tooLarge))
    rw [Change.apply, Entries.get?_put_of_ne _ _ apart, unknown]

/-- Declaring a class that is new, or declaring one again with what it inherits and its fields. -/
theorem declareClass {store : Store} {id : ClassId} {number : Nat} {declared : GeneratedClass}
    (isNumber : id.number? = some number) (isNext : number ≤ store.generated.length)
    (again : ∀ before, Entries.get? store.generated id = some before →
      declared.ancestors = before.ancestors ∧ declared.fields = before.fields ∧
        declared.settles = before.settles) :
    store.Builds space written opened ((Change.declareClass id declared).apply store) where
  size := Nat.le_refl _
  old _ _ _ := rfl
  names bound isSpace := ⟨bound, isSpace, fun _ _ => rfl⟩
  objects _ _ _ stands _ := stands
  functions _ function _ stands := ⟨function, stands, rfl, rfl⟩
  declared other before isBefore := by
    by_cases same : other = id
    · subst same
      exact ⟨declared, Entries.get?_put_self _ _ _, again before isBefore⟩
    · refine ⟨before, ?_, rfl, rfl, rfl⟩
      rw [Change.apply, Entries.get?_put_of_ne _ _ same, isBefore]
  attributes _ _ _ _ _ _ := rfl
  present _ _ _ _ isPresent := fun isRemoved => isPresent (List.mem_of_mem_filter isRemoved)
  hosts _ _ _ _ := rfl
  named _ _ _ := rfl
  modules := rfl
  intact := intact_declareClass declared isNumber isNext

end Store.Builds

end Deferred
