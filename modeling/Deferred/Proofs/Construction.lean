import Deferred.Proofs.RecordClass

/-!
# Making a record

Calling a record class with a value for each of its fields makes one new object, which keeps each
value under the name of its field, and does nothing else: where the body of the class puts no hook
on it, no code is run.
-/

namespace Deferred

open Store Action Arguments

/-- The methods through which a class has a say in how its instances are made. -/
def makingHooks : List String := ["__new__", "__init__", "__setattr__"]

namespace Store

variable {store before after : Store} {id base : ClassId} {fields : List RecordField}

theorem HasRecord.of_grows (record : before.HasRecord id base fields) (grows : before.Grows after) :
    after.HasRecord id base fields where
  isRecord := record.isRecord
  isBase := record.isBase
  declared := by
    rw [grows.generated_eq]
    exact record.declared
  present name := by
    rw [grows.removed_eq]
    exact record.present name

theorem modify_push_size {α : Type} (items : Array α) (item : α) (change : α → α) :
    (items.push item).modify items.size change = items.push (change item) := by
  apply Array.ext
  · simp
  · intro place isOld isNew
    rw [Array.getElem_modify, Array.getElem_push, Array.getElem_push]
    by_cases earlier : place < items.size
    · simp [earlier, Nat.ne_of_gt earlier]
    · have last : items.size = place := by
        simp only [Array.size_modify, Array.size_push] at isOld
        omega
      simp [last]

/-- Setting an attribute of the object at the end is having put it there with the attribute. -/
theorem setAttribute_allocate (store : Store) (object : Object) (attributes : Bindings)
    {name : String} (value : Value) (isNew : name ∉ attributes.map Prod.fst) :
    (Change.setAttribute store.cells.size name value).apply
        ((Change.allocate object attributes).apply store) =
      (Change.allocate object (attributes ++ [(name, value)])).apply store := by
  have last : Entries.put attributes name value = attributes ++ [(name, value)] :=
    Entries.put_of_notMem isNew
  simp only [Change.apply, modifyCell, ← last, modify_push_size]

/-- What every class has through the root is found on the root. -/
theorem find_base_of_root {name : String}
    (isBase : base = ClassId.command ∨ base = ClassId.entityCommand)
    (isRoot : name ∈ ClassId.rootMembers) :
    ({} : Store).find base name = some (.member ClassId.object name .other) := by
  have apart : name ≠ "apply" ∧ name ≠ "with_entity" ∧ name ≠ "__slots__" ∧
      name ≠ "__weakref__" := by
    refine ⟨?_, ?_, ?_, ?_⟩ <;> rintro rfl <;> revert isRoot <;> decide
  obtain ⟨notApply, notBinder, notSlots, notReference⟩ := apart
  have unmade : base.members.lookup name = none := by
    rcases isBase with rfl | rfl
    · rw [members_command, List.lookup_cons, beq_false_of_ne notApply]
      rfl
    · rw [members_entityCommand, List.lookup_cons, beq_false_of_ne notApply, List.lookup_cons,
        beq_false_of_ne notBinder]
      rfl
  rw [find_base isBase, unmade]
  simp [notSlots, notReference, isRoot]

/-- A hook that was not put on a record class is none. -/
theorem HasRecord.special?_eq_none (record : store.HasRecord id base fields)
    (intact : store.Intact) {place : Ref} {hook : String} (isRoot : hook ∈ ClassId.rootMembers)
    (unmade : hook ∉ recordMembers) (free : store.classAttribute? id hook = none) :
    special? store (.object id place) hook = none := by
  have kept : isKept base hook = true := by
    rw [isKept, isSpecial_of_mem_rootMembers isRoot, Bool.or_true]
  have found := record.find_eq intact free unmade kept
  rw [find_base_of_root record.isBase isRoot] at found
  exact special?_of_member found

end Store

namespace Action

variable {store : Store} {call : Caller} {machine : Machine} {id base : ClassId}
  {fields : List RecordField}

/-- An attribute is set on an object itself, unless its class has a say in it. -/
theorem run_setAttribute_plain {place : Ref} {name : String} {content : Value}
    (stands : store.object? place = some .plain) (mutable : id.isFrozen = false)
    (made : id.isStandard = false) (free : name ≠ "__class__" ∧ name ≠ "__dict__")
    (leaves : leavesToInstance (store.find id name) = true) :
    (setAttribute (.object id place) name content).run store =
      (.ok (), (Change.setAttribute place name content).apply store) := by
  simp only [setAttribute, bind_eq, run_store_bind, mutable, made, stands, free, Bool.false_eq_true,
    if_false, or_self, Bool.false_and]
  split
  · rename_i isFunction
    cases isFunction
  · rename_i isException _
    cases isException
  · rename_i _ isPart
    simp [isPart, leavesToInstance] at leaves
  · rfl
  · rename_i isMissing
    cases isMissing

/-- An attribute of a record is set on the record itself. -/
theorem run_assignAttribute_record {place : Ref} {name : String} {content : Value}
    (record : store.HasRecord id base fields) (intact : store.Intact)
    (unhooked : store.classAttribute? id "__setattr__" = none)
    (stands : store.object? place = some .plain) (free : name ∉ instanceNames) :
    (assignAttribute call (.object id place) name content).run store =
      (.ok (), (Change.setAttribute place name content).apply store) := by
  have hookless : special? store (.object id place) "__setattr__" = none :=
    record.special?_eq_none intact (by decide) (by decide) unhooked
  have leaves := record.leaves intact free
  obtain ⟨serial, home, owner, rfl⟩ := record.isRecord
  simp only [instanceNames, List.mem_cons, List.not_mem_nil, or_false, not_or] at free
  rw [assignAttribute, bind_eq, run_bind_of_ok (run_callSpecial?_none hookless)]
  exact run_setAttribute_plain stands rfl rfl (by simp [free]) leaves

/-- The names of the fields of a record. -/
def fieldNames (fields : List RecordField) : List String := fields.map RecordField.name

/-- A field is set to what is given for it, unless that marks a default that is made anew. -/
theorem setFields_cons {made value : Value} {given : Bindings} {field : RecordField}
    {rest : List RecordField} (isGiven : given.lookup field.name = some value)
    (unmarked : field.factory.isSome = true →
      Value.same value (unlessHidden given "_HAS_DEFAULT_FACTORY" RecordField.made) = false) :
    setFields call made given (field :: rest) =
      (assignAttribute call made field.name value).bind fun _ => setFields call made given rest := by
  cases isMade : field.factory with
  | none => simp only [setFields, isGiven, isMade, bind_eq, done_bind]
  | some factory =>
    have differs := unmarked (by rw [isMade]; rfl)
    simp only [setFields, isGiven, isMade, bind_eq, done_bind, differs, Bool.false_eq_true,
      if_false]

/-- Setting the fields of a new record, each to what is given for it. -/
theorem run_setFields {give : String → Value} {given : Bindings}
    (record : store.HasRecord id base fields) (intact : store.Intact)
    (unhooked : store.classAttribute? id "__setattr__" = none) {rest : List RecordField}
    (free : ∀ field ∈ rest, field.name ∉ instanceNames)
    (isGiven : ∀ field ∈ rest, given.lookup field.name = some (give field.name))
    (unmarked : ∀ field ∈ rest, field.factory.isSome = true →
      Value.same (give field.name) (unlessHidden given "_HAS_DEFAULT_FACTORY" RecordField.made) =
        false)
    {sofar : Bindings} (apart : (sofar.map Prod.fst ++ fieldNames rest).Nodup) :
    (setFields call (.object id store.cells.size) given rest).run
        ((Change.allocate .plain sofar).apply store) =
      (.ok (), (Change.allocate .plain (sofar ++ named (fieldNames rest) give)).apply store) := by
  induction rest generalizing sofar with
  | nil => simp [setFields, fieldNames, named]
  | cons field rest ih =>
    have grown := Grows.allocate store .plain sofar
    have isNew : field.name ∉ sofar.map Prod.fst := by
      intro isOld
      exact (List.nodup_append.mp apart).2.2 _ isOld field.name (by simp [fieldNames]) rfl
    have hooked : ((Change.allocate .plain sofar).apply store).classAttribute? id "__setattr__" =
        none := by
      rw [grown.classAttribute?_eq, unhooked]
    have sets : (assignAttribute call (.object id store.cells.size) field.name
        (give field.name)).run ((Change.allocate .plain sofar).apply store) = _ :=
      run_assignAttribute_record (record.of_grows grown) (intact.of_grows grown) hooked
      (object?_allocate store .plain sofar) (free field List.mem_cons_self)
    rw [setAttribute_allocate store .plain sofar _ isNew] at sets
    have later := @ih (fun other isLater => free other (List.mem_cons_of_mem _ isLater))
      (fun other isLater => isGiven other (List.mem_cons_of_mem _ isLater))
      (fun other isLater => unmarked other (List.mem_cons_of_mem _ isLater))
      (sofar ++ [(field.name, give field.name)]) (by simpa [fieldNames] using apart)
    rw [setFields_cons (isGiven field List.mem_cons_self) (unmarked field List.mem_cons_self),
      run_bind_of_ok sets, later]
    simp [named, fieldNames]

/-- A new record is made of nothing but its attributes. -/
theorem run_blank (record : store.HasRecord id base fields) (arguments : Arguments) :
    (blank machine id arguments).run store = (.ok .plain, store) := by
  obtain ⟨isGeneric, above⟩ := record.ancestors_eq
  obtain ⟨serial, home, owner, rfl⟩ := record.isRecord
  simp only [blank, bind_eq, run_store_bind, above]
  rcases record.isBase with rfl | rfl <;> cases isGeneric <;> rfl

/-- The parameters of the constructor of a record are its fields. -/
theorem mem_parameters {parameter : CallParameter}
    (isIn : parameter ∈ RecordField.parameters fields) :
    takesName parameter = true ∧ parameter.name ∈ fieldNames fields := by
  simp only [RecordField.parameters, List.mem_append, List.mem_map, List.mem_filter] at isIn
  rcases isIn with ⟨field, ⟨isField, -⟩, rfl⟩ | ⟨field, ⟨isField, -⟩, rfl⟩
  · exact ⟨rfl, List.mem_map.mpr ⟨field, isField, rfl⟩⟩
  · exact ⟨rfl, List.mem_map.mpr ⟨field, isField, rfl⟩⟩

theorem exists_parameter {name : String} (isField : name ∈ fieldNames fields) :
    ∃ parameter ∈ RecordField.parameters fields, parameter.name = name := by
  obtain ⟨field, isIn, rfl⟩ := List.mem_map.mp isField
  cases kind : field.keywordOnly with
  | false =>
    refine ⟨_, List.mem_append_left _ (List.mem_map.mpr ⟨field, ?_, rfl⟩), rfl⟩
    simp [List.mem_filter, isIn, kind]
  | true =>
    refine ⟨_, List.mem_append_right _ (List.mem_map.mpr ⟨field, ?_, rfl⟩), rfl⟩
    simp [List.mem_filter, isIn, kind]

/-- What a record class asks of its fields so that making a record runs no code. -/
structure PlainFields (store : Store) (id : ClassId) (fields : List RecordField) : Prop where
  unhooked : ∀ hook ∈ makingHooks, store.classAttribute? id hook = none
  apart : (fieldNames fields).Nodup
  free : ∀ name ∈ fieldNames fields, name ∉ instanceNames ∧ name ≠ "self"

/-- What asks the constructor for a default that is made anew; a field of that name hides it. -/
def newDefault (names : List String) (give : String → Value) : Value :=
  if "_HAS_DEFAULT_FACTORY" ∈ names then give "_HAS_DEFAULT_FACTORY" else RecordField.made

/-- The values for the fields of a record do not ask for a default that is made anew. -/
def Unmarked (fields : List RecordField) (give : String → Value) : Prop :=
  ∀ field ∈ fields, field.factory.isSome = true →
    Value.same (give field.name) (newDefault (fieldNames fields) give) = false

theorem unlessHidden_named (names : List String) (give : String → Value) :
    unlessHidden (named names give) "_HAS_DEFAULT_FACTORY" RecordField.made =
      newDefault names give := by
  rw [unlessHidden, newDefault]
  split
  · rename_i isField
    rw [lookup_named isField]
    rfl
  · rename_i notField
    rw [lookup_named_of_notMem notField]
    rfl

/-- The parameters of the constructor go by the names of the fields. -/
theorem newDefault_parameters (give : String → Value) :
    newDefault ((RecordField.parameters fields).map CallParameter.name) give =
      newDefault (fieldNames fields) give := by
  have same : "_HAS_DEFAULT_FACTORY" ∈ (RecordField.parameters fields).map CallParameter.name ↔
      "_HAS_DEFAULT_FACTORY" ∈ fieldNames fields := by
    constructor
    · intro isParameter
      obtain ⟨parameter, isIn, isName⟩ := List.mem_map.mp isParameter
      exact isName ▸ (mem_parameters isIn).2
    · intro isField
      obtain ⟨parameter, isIn, isName⟩ := exists_parameter isField
      exact List.mem_map.mpr ⟨parameter, isIn, isName⟩
  simp only [newDefault, same]

theorem notMem_of_any {names : List String} {fields : List RecordField} {name : String}
    (isNames : fieldNames fields = names) (isOut : name ∉ names) :
    fields.any (·.name = name) = false := by
  subst isNames
  simpa [fieldNames] using isOut

/-- The constructor of a record binds each parameter to what is given for the field. -/
theorem run_bindTo_fields {give : String → Value} {made : Value} (owner : String)
    (noReceiver : "self" ∉ fieldNames fields) :
    (bindTo owner (CallParameter.plain "self" :: RecordField.parameters fields)
        { positional := [made], keywords := named (fieldNames fields) give }).run store =
      (.ok (("self", made) :: named ((RecordField.parameters fields).map CallParameter.name) give),
        store) := by
  have fits := fit?_named "self" made give
    (fun _ isIn => mem_parameters isIn) (fun _ isField => exists_parameter isField) noReceiver
  rw [bindTo, fits]
  simpa [named, Function.comp_def] using run_values_filled
    (("self", made) :: named ((RecordField.parameters fields).map CallParameter.name) give)

/-- The constructor of a record sets each field to what is given for it. -/
theorem run_constructRecord {give : String → Value} (record : store.HasRecord id base fields)
    (intact : store.Intact) (plain : PlainFields store id fields)
    (unmarked : Unmarked fields give) :
    (constructRecord call (.object id store.cells.size) fields
        { keywords := named (fieldNames fields) give }).run
        ((Change.allocate .plain []).apply store) =
      (.ok (), (Change.allocate .plain (named (fieldNames fields) give)).apply store) := by
  have noReceiver : "self" ∉ fieldNames fields := fun isField => (plain.free _ isField).2 rfl
  have sets : (setFields call (.object id store.cells.size)
      (named ((RecordField.parameters fields).map CallParameter.name) give) fields).run
      ((Change.allocate .plain []).apply store) =
        (.ok (), (Change.allocate .plain (named (fieldNames fields) give)).apply store) :=
    run_setFields record intact
    (plain.unhooked _ (by decide))
    (fun field isIn => (plain.free _ (List.mem_map.mpr ⟨field, isIn, rfl⟩)).1)
    (fun field isIn => by
      obtain ⟨parameter, isParameter, same⟩ :=
        exists_parameter (List.mem_map.mpr ⟨field, isIn, rfl⟩)
      exact lookup_named (List.mem_map.mpr ⟨parameter, isParameter, same⟩))
    (fun field isIn isMade => by
      rw [unlessHidden_named, newDefault_parameters]
      exact unmarked field isIn isMade)
    (by simpa using plain.apart)
  obtain ⟨declared, isGeneric, isDeclared, -, -, quiet⟩ :=
    (record.of_grows (Grows.allocate store .plain (named (fieldNames fields) give))).declared
  simp only [constructRecord, notMem_of_any rfl noReceiver, Bool.false_eq_true, if_false, bind_eq]
  rw [run_bind_of_ok (run_bindTo_fields _ noReceiver), List.drop_one, List.tail_cons,
    run_bind_of_ok sets]
  simp [isDeclared, quiet, Value.classId]

/-- Making a record from a value for each field puts one object into the store, which keeps each
value under the name of its field. -/
theorem run_construct_record {give : String → Value} (record : store.HasRecord id base fields)
    (intact : store.Intact) (plain : PlainFields store id fields)
    (unmarked : Unmarked fields give) :
    (construct machine id { keywords := named (fieldNames fields) give }).run store =
      (.ok (.object id store.cells.size),
        (Change.allocate .plain (named (fieldNames fields) give)).apply store) := by
  have makerless : store.find id "__new__" =
      some (.member ClassId.object "__new__" .other) := by
    rw [record.find_eq intact (plain.unhooked _ (by decide)) (by decide) (by
      rw [isKept, isSpecial_of_mem_rootMembers (by decide), Bool.or_true])]
    exact find_base_of_root record.isBase (by decide)
  have initial := record.find_init (plain.unhooked _ (by decide))
  simp only [construct, bind_eq, run_store_bind, makerless]
  simp only [constructPlain, bind_eq, run_store_bind, initial, record.recordFields?_eq]
  rw [run_bind_of_ok (run_blank record _), run_allocate_bind,
    run_bind_of_ok (run_constructRecord record intact plain unmarked)]
  rfl

end Action

end Deferred
