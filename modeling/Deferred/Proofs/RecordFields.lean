import Deferred.Proofs.Declaring

/-!
# Making a class one of fields

A class below a base of the host becomes one whose instances are made of fields.  The fields go by
the names that its body annotated.  What its body set a field to is replaced by the default, or
removed where there is none; nothing else runs, and nothing else changes.
-/

namespace Deferred

open Store Action

/-- A class stands below a base of the host and is not made of fields yet. -/
structure Store.Bare (store : Store) (id base : ClassId) (isGeneric : Bool) : Prop where
  isRecord : ∃ serial home name, id = .record serial home name .abstract
  isBase : base = ClassId.command ∨ base = ClassId.entityCommand
  declared : ∃ declared, Entries.get? store.generated id = some declared ∧
    declared.ancestors = id :: aboveRecord base isGeneric ∧ declared.fields = none
  intact : store.Intact

/-- The only values among the members of the classes above a record are empty lists of slots. -/
theorem Store.value_of_lookup_above {base parent : ClassId} {isGeneric : Bool} {name : String}
    {value : Value} (isBase : base = ClassId.command ∨ base = ClassId.entityCommand)
    (isAbove : parent ∈ aboveRecord base isGeneric)
    (isMember : parent.members.lookup name = some (.value value)) : value = .tuple [] 0 := by
  have ofSlots : ∀ {found}, [("__slots__", Member.value (.tuple [] 0))].lookup name = some found →
      found = .value (.tuple [] 0) := by
    intro found isFound
    rw [List.lookup_cons] at isFound
    split at isFound
    · exact (Option.some.inj isFound).symm
    · cases isFound
  simp only [aboveRecord, List.mem_cons, List.mem_append, List.not_mem_nil, or_false] at isAbove
  rcases isAbove with rfl | rfl | isGenericClass | rfl
  · obtain ⟨parameters, isMethod⟩ := isMethod_of_lookup isBase isMember
    cases isMethod
  · cases ofSlots isMember
    rfl
  · cases isGeneric with
    | true =>
      obtain rfl : parent = ClassId.generic := by simpa using isGenericClass
      cases ofSlots isMember
      rfl
    | false => simp at isGenericClass
  · cases isMember

namespace Store.Bare

variable {store : Store} {id base : ClassId} {isGeneric : Bool} {name : String} {place : Ref}

theorem ancestors_eq (bare : store.Bare id base isGeneric) :
    store.ancestors id = id :: aboveRecord base isGeneric := by
  obtain ⟨declared, isDeclared, above, -⟩ := bare.declared
  rw [ancestors, isDeclared]
  exact above

theorem recordFields?_eq (bare : store.Bare id base isGeneric) : store.recordFields? id = none := by
  obtain ⟨declared, isDeclared, -, noFields⟩ := bare.declared
  rw [recordFields?, isDeclared, Option.bind_some, noFields]

theorem recordFields?_above (bare : store.Bare id base isGeneric) {parent : ClassId}
    (isAbove : parent ∈ aboveRecord base isGeneric) : store.recordFields? parent = none := by
  have isKnown := isDeclared_of_mem_aboveRecord bare.isBase isAbove
  cases parent with
  | declared home owner =>
    rw [recordFields?, bare.intact.declared]
    rfl
  | _ => simp [isDeclared] at isKnown

/-- The classes above a record are not made of fields. -/
theorem fieldsOfClass?_above (bare : store.Bare id base isGeneric) {parent : ClassId}
    (isAbove : parent ∈ aboveRecord base isGeneric) : store.fieldsOfClass? parent = none := by
  have plain : parent.isComponent = false ∧ parent ≠ ClassId.entity ∧ parent.isFrozen = false := by
    have isBase := bare.isBase
    clear bare
    revert parent
    rcases isBase with rfl | rfl <;> cases isGeneric <;> decide
  rw [fieldsOfClass?, bare.recordFields?_above isAbove]
  simp [plain]

theorem fieldsAbove?_eq (bare : store.Bare id base isGeneric) : store.fieldsAbove? id = none := by
  rw [fieldsAbove?, bare.ancestors_eq, List.findSome?_eq_none_iff]
  intro parent isIn
  rcases List.mem_cons.mp isIn with rfl | isAbove
  · obtain ⟨serial, home, owner, rfl⟩ := bare.isRecord
    rw [fieldsOfClass?, bare.recordFields?_eq]
    rfl
  · exact bare.fieldsOfClass?_above isAbove

/-- What a class finds that says more than a default was put on the class itself. -/
theorem find_options (bare : store.Bare id base isGeneric)
    (isFound : store.find id name = some (.value (.object ClassId.fieldOptions place))) :
    store.classAttribute? id name = some (.object ClassId.fieldOptions place) := by
  have first : (store.ancestors id).findSome? (store.ownFound? · name) =
      some (.value (.object ClassId.fieldOptions place)) := by
    rw [find] at isFound
    split at isFound
    · rename_i found isFirst
      rw [isFirst, isFound]
    · split at isFound
      · cases isReferable : store.referable? id <;> simp [isReferable] at isFound
      · split at isFound <;> simp at isFound
  rw [bare.ancestors_eq, List.findSome?_cons] at first
  split at first
  · rename_i found onClass
    cases first
    rw [ownFound?] at onClass
    split at onClass
    · rename_i value isPut
      cases onClass
      exact isPut
    · obtain ⟨serial, home, owner, rfl⟩ := bare.isRecord
      simp [fieldMember?, bare.recordFields?_eq, members_record] at onClass
  · obtain ⟨parent, isAbove, onParent⟩ := List.exists_of_findSome?_eq_some first
    rw [ownFound?] at onParent
    split at onParent
    · rename_i value isPut
      cases onParent
      have isKnown := isDeclared_of_mem_aboveRecord bare.isBase isAbove
      cases parent with
      | declared home owner => exact absurd rfl (bare.intact.settled home owner name _ isPut)
      | _ => simp [isDeclared] at isKnown
    · rw [fieldMember?, bare.recordFields?_above isAbove] at onParent
      split at onParent
      · cases onParent
      · cases isMember : parent.members.lookup name with
        | none => simp [isMember] at onParent
        | some member =>
          cases member with
          | value value =>
            obtain rfl := value_of_lookup_above bare.isBase isAbove isMember
            simp [isMember, memberOf] at onParent
          | _ => simp [isMember, memberOf] at onParent

/-- A property of a class that is an object was put on it. -/
theorem fixedAttribute_object {owner : ClassId}
    (isFixed : store.fixedAttribute? id name = some (.object owner place)) :
    store.classAttribute? id name = some (.object owner place) := by
  have ofPut : ∀ otherwise : Value, (∀ found, otherwise ≠ .object owner found) →
      some ((store.classAttribute? id name).getD otherwise) = some (.object owner place) →
      store.classAttribute? id name = some (.object owner place) := by
    intro otherwise notObject isThere
    cases isPut : store.classAttribute? id name with
    | none =>
      rw [isPut] at isThere
      exact absurd (Option.some.inj isThere) (notObject place)
    | some value =>
      rw [isPut] at isThere
      exact isThere
  have notDoc : ∀ found, classDoc id ≠ .object owner found := by
    intro found
    unfold classDoc
    split
    · exact Value.noConfusion
    · split
      · exact Value.noConfusion
      · split <;> exact Value.noConfusion
  unfold fixedAttribute? at isFixed
  split at isFixed
  · cases isFixed
  · cases isFixed
  · exact ofPut _ (fun _ => Value.noConfusion) isFixed
  · exact ofPut _ notDoc isFixed
  · cases isFixed
  · cases isFixed
  · have notObject : ∀ first : Option ClassId,
        (first.map Value.ofClass).getD .absent ≠ .object owner place := by
      intro first
      cases first <;> exact Value.noConfusion
    exact absurd (Option.some.inj isFixed) (notObject _)
  · cases isFixed
  · cases isFixed
  · exact isFixed
  · exact isFixed
  · split at isFixed <;> cases isFixed

theorem bound_of_classBound? {owner : ClassId} {value : Value}
    (isBound : classBound? id owner name = some value) :
    ∃ receiver function, value = .bound receiver function 0 := by
  rw [classBound?] at isBound
  split at isBound
  · cases isBound
  · split at isBound <;> cases isBound <;> exact ⟨_, _, rfl⟩

theorem bound_of_ownMember? {value : Value} (isOwn : ownMember? id name = some value) :
    ∃ receiver function, value = .bound receiver function 0 := by
  rw [ownMember?] at isOwn
  split at isOwn
  · cases isOwn
    exact ⟨_, _, rfl⟩
  · split at isOwn
    · cases isOwn
      exact ⟨_, _, rfl⟩
    · split at isOwn
      · cases isOwn
        exact ⟨_, _, rfl⟩
      · split at isOwn
        · cases isOwn
          exact ⟨_, _, rfl⟩
        · cases isOwn

theorem tuple_of_genericAttribute? {value : Value}
    (isGiven : store.genericAttribute? id name = some value) :
    ∃ items, value = .tuple items 0 := by
  unfold genericAttribute? at isGiven
  split at isGiven
  · cases isGiven
    exact ⟨_, rfl⟩
  · cases isGiven
    exact ⟨_, rfl⟩
  · cases isGiven

/-- What a class answers with that says more than a default was put on it. -/
theorem typeAttribute_options (bare : store.Bare id base isGeneric)
    (isFound : store.typeAttribute? id name = some (.object ClassId.fieldOptions place)) :
    store.classAttribute? id name = some (.object ClassId.fieldOptions place) := by
  rw [typeAttribute?] at isFound
  split at isFound
  · rename_i value isFixed
    cases isFound
    exact fixedAttribute_object isFixed
  · split at isFound
    · rename_i value found
      cases isFound
      exact bare.find_options found
    · rename_i owner part member found
      cases ofClass : classBound? id owner part with
      | none => simp [ofClass] at isFound
      | some value =>
        obtain ⟨receiver, function, rfl⟩ := bound_of_classBound? ofClass
        simp [ofClass] at isFound
    · split at isFound
      · cases isFound
      · cases isGiven : store.genericAttribute? id name with
        | some value =>
          obtain ⟨items, rfl⟩ := tuple_of_genericAttribute? isGiven
          simp [isGiven] at isFound
        | none =>
          rw [isGiven, Option.none_or] at isFound
          obtain ⟨receiver, function, same⟩ := bound_of_ownMember? isFound
          cases same

/-- The classes of records have no say in how their own attributes are read. -/
theorem special?_eq_none (bare : store.Bare id base isGeneric) {hook : String}
    (isHook : hook = "__getattribute__" ∨ hook = "__getattr__") :
    special? store (.cls id) hook = none := by
  obtain ⟨serial, home, owner, rfl⟩ := bare.isRecord
  have isSpecial : isKept ClassId.abstractMeta hook = true := by
    rcases isHook with rfl | rfl <;> decide
  have found := bare.intact.find_eq (by decide) isSpecial
  have isMeta : (Value.cls (.record serial home owner .abstract)).classId = ClassId.abstractMeta :=
    rfl
  rw [special?, isMeta, found]
  rcases isHook with rfl | rfl <;> rfl

theorem of_grows {after : Store} (bare : store.Bare id base isGeneric) (grows : store.Grows after) :
    after.Bare id base isGeneric where
  isRecord := bare.isRecord
  isBase := bare.isBase
  declared := by
    rw [grows.generated_eq]
    exact bare.declared
  intact := bare.intact.of_grows grows

end Store.Bare

namespace Action

variable {store before after : Store} {id base : ClassId} {isGeneric : Bool} {name : String}
  {call : Caller}

theorem onlyAdds_newTable (entries : Bindings) : (newTable entries).OnlyAdds := .allocate _ _ _

/-- What is made for a class when it is asked for is new, and says nothing of a default. -/
theorem lateAttribute?_cls (before : Store) (bare : store.Bare id base isGeneric) {late : Action Value}
    (isLate : lateAttribute? store (.cls id) name = some late) :
    late.OnlyAdds ∧ ∀ place, (late.run before).1 ≠ .ok (.object ClassId.fieldOptions place) := by
  have table : ∀ entries, (newTable entries).OnlyAdds ∧
      ∀ place, ((newTable entries).run before).1 ≠ .ok (.object ClassId.fieldOptions place) := by
    refine fun entries => ⟨onlyAdds_newTable entries, fun place same => ?_⟩
    injection same with same
    injection same with same
    exact absurd same (by decide)
  simp only [lateAttribute?] at isLate
  unfold lateClassAttribute? at isLate
  split at isLate
  · cases isLate
    refine ⟨.allocate _ _ _, fun place same => ?_⟩
    injection same with same
    injection same with same
    exact absurd same (by decide)
  · split at isLate
    · cases isLate
    · cases isLate
      exact table _
  · split at isLate
    · cases isLate
      refine ⟨.allocate _ _ _, fun place same => ?_⟩
      injection same with same
      injection same with same
      exact absurd same (by decide)
    · cases isLate
  · simp [fieldAttribute?, bare.fieldsAbove?_eq] at isLate

/-- Reading an attribute of a bare class runs nothing, and an answer that says more than a default
is what was put on the class. -/
theorem attribute?_bare (bare : before.Bare id base isGeneric)
    {outcome : Except Fault (Option Value)}
    (runs : (attribute? call (.cls id) name).run before = (outcome, after)) :
    before.Grows after ∧ ∀ place, outcome = .ok (some (.object ClassId.fieldOptions place)) →
      before.classAttribute? id name = some (.object ClassId.fieldOptions place) := by
  simp only [attribute?, bind_eq] at runs
  rw [run_bind_of_ok (run_callSpecial?_none (bare.special?_eq_none (.inl rfl)))] at runs
  simp only [plainAttribute?, bind_eq, run_store_bind] at runs
  cases isLate : lateAttribute? before (.cls id) name with
  | some late =>
    obtain ⟨adds, apart⟩ := lateAttribute?_cls before bare isLate
    simp only [isLate, run_bind] at runs
    have grows := adds before
    cases made : late.run before with
    | mk answer between =>
      rw [made] at runs grows
      cases answer with
      | ok value =>
        cases runs
        refine ⟨grows, fun place same => ?_⟩
        cases same
        exact absurd (by rw [made]) (apart place)
      | error fault =>
        cases runs
        exact ⟨grows, fun place same => by cases same⟩
  | none =>
    simp only [isLate] at runs
    cases isFound : before.typeAttribute? id name with
    | some found =>
      simp only [Store.attribute?, isFound] at runs
      obtain ⟨answer, marks, renews, more, isAgain⟩ :=
        run_renewed before (.cls id) found name before
      rw [run_bind_of_ok renews] at runs
      cases runs
      refine ⟨.useMarks before more, fun place isOptions => ?_⟩
      cases isOptions
      cases isAgain
      exact bare.typeAttribute_options isFound
    | none =>
      simp only [Store.attribute?, isFound] at runs
      rw [run_callSpecial?_none (bare.special?_eq_none (.inr rfl))] at runs
      cases runs
      exact ⟨.refl _, fun place same => by cases same⟩

/-- The methods through which a class has a say in its instances, or in how they are read. -/
def fieldHooks : List String := makingHooks ++ ["__post_init__", "__getattribute__"]

/-- What was put on a bare class under the name of a hook is what the class answers with. -/
theorem attribute?_hook (bare : before.Bare id base isGeneric) (isHook : name ∈ fieldHooks)
    {owner : ClassId} {place : Ref}
    (isPut : before.classAttribute? id name = some (.object owner place)) :
    (Action.attribute? call (.cls id) name).run before =
      (.ok (some (.object owner place)), before) := by
  have apart : lateAttribute? before (.cls id) name = none ∧
      before.fixedAttribute? id name = none := by
    simp only [fieldHooks, makingHooks, List.cons_append, List.nil_append, List.mem_cons,
      List.not_mem_nil, or_false] at isHook
    rcases isHook with rfl | rfl | rfl | rfl | rfl <;> exact ⟨rfl, rfl⟩
  have found : before.find id name = some (.value (.object owner place)) := by
    rw [find, bare.ancestors_eq, List.findSome?_cons, ownFound?, isPut]
  simp only [Action.attribute?, bind_eq]
  rw [run_bind_of_ok (run_callSpecial?_none (bare.special?_eq_none (.inl rfl)))]
  simp only [plainAttribute?, bind_eq, run_store_bind, apart.1, Store.attribute?, typeAttribute?,
    apart.2, found, renewed, pure_eq_done, done_bind, run_done]

theorem home_partKind? {owner kind : ClassId} {part : String}
    (isKind : ClassId.partKind? owner part = some kind) : kind.home = "builtins" := by
  unfold ClassId.partKind? at isKind
  split at isKind
  · cases isKind
    rfl
  · split at isKind
    · cases isKind
      rfl
    · split at isKind
      · cases isKind
        rfl
      · split at isKind
        · cases isKind
          rfl
        · cases isKind

theorem home_functionKind (owner : ClassId) (part : String) :
    (ClassId.functionKind owner part).home = "builtins" := by
  unfold ClassId.functionKind
  split
  · rename_i kind isKind
    exact home_partKind? isKind
  · split
    · rfl
    · split
      · rfl
      · split <;> rfl

/-- Only objects say more than a default. -/
theorem object_of_classId {value : Value} (isOptions : value.classId = ClassId.fieldOptions) :
    ∃ place, value = .object ClassId.fieldOptions place := by
  cases value with
  | object owner place =>
    obtain rfl : owner = ClassId.fieldOptions := isOptions
    exact ⟨place, rfl⟩
  | hostMethod owner part =>
    have home := home_functionKind owner part
    rw [Value.classId] at isOptions
    rw [isOptions] at home
    exact absurd home (by decide)
  | bound receiver function mark =>
    cases function with
    | hostMethod owner part =>
      simp only [Value.classId, ClassId.methodKind] at isOptions
      split at isOptions
      · exact absurd isOptions (by decide)
      · split at isOptions <;> exact absurd isOptions (by decide)
    | _ => exact absurd isOptions (by simp only [Value.classId]; decide)
  | cls id =>
    rw [Value.classId, Value.metaclass] at isOptions
    split at isOptions <;> exact absurd isOptions (by decide)
  | applied id given mark =>
    rw [Value.classId] at isOptions
    split at isOptions <;> exact absurd isOptions (by decide)
  | _ => exact absurd isOptions (by simp only [Value.classId]; decide)

/-- A field as what was found under its name tells it. -/
def readField (store : Store) (name hint : String) : Option Value → RecordField
  | none => { name, hint }
  | some value =>
    if value.classId = ClassId.fieldOptions then
      { name, hint
        default := store.ownAttribute? value "default"
        factory := store.ownAttribute? value "default_factory"
        keywordOnly := ((store.ownAttribute? value "kw_only").map store.isTrue).getD false }
    else { name, hint, default := some value }

theorem name_readField (hint : String) (found : Option Value) :
    (readField store name hint found).name = name := by
  cases found with
  | none => rfl
  | some value =>
    rw [readField]
    split <;> rfl

/-- A field that is not refused is what was found under its name. -/
theorem fieldOf_eq_ok {hint : String} {field : RecordField}
    (runs : (fieldOf call id name hint).run before = (.ok field, after)) :
    ∃ found, (Action.attribute? call (.cls id) name).run before = (.ok found, after) ∧
      field = readField after name hint found := by
  simp only [fieldOf, bind_eq, run_bind_eq_ok, run_store_bind] at runs
  obtain ⟨found, between, reads, runs⟩ := runs
  refine ⟨found, ?_⟩
  split at runs
  · split at runs
    · cases runs
    · cases found with
      | none =>
        cases runs
        exact ⟨reads, rfl⟩
      | some value =>
        rw [readField]
        by_cases isOptions : value.classId = ClassId.fieldOptions
        · simp only [isOptions, if_true] at runs ⊢
          split at runs
          · split at runs
            · cases runs
            · cases runs
              exact ⟨reads, rfl⟩
          · cases runs
            exact ⟨reads, rfl⟩
        · simp only [isOptions, if_false] at runs ⊢
          split at runs
          · cases runs
          · cases runs
            exact ⟨reads, rfl⟩
  · cases runs

/-- What a field of a class has to do with what was put on the class: a default that is made anew
was put there, and so was the default of a field under the name of a hook. -/
structure Settled (id : ClassId) (before seen : Store) (field : RecordField) : Prop where
  grows : before.Grows seen
  factory : field.factory.isSome → ∃ place,
    before.classAttribute? id field.name = some (.object ClassId.fieldOptions place) ∧
    (seen.ownAttribute? (.object ClassId.fieldOptions place) "default_factory").isSome
  hook : ∀ place, field.name ∈ fieldHooks →
    before.classAttribute? id field.name = some (.object ClassId.fieldOptions place) →
    field.default = seen.ownAttribute? (.object ClassId.fieldOptions place) "default"

/-- Reading off a field of a bare class. -/
theorem settled_fieldOf (bare : before.Bare id base isGeneric) {hint : String}
    {field : RecordField}
    (runs : (fieldOf call id name hint).run before = (.ok field, after)) :
    field.name = name ∧ Settled id before after field := by
  obtain ⟨found, reads, rfl⟩ := fieldOf_eq_ok runs
  obtain ⟨grows, options⟩ := attribute?_bare bare reads
  refine ⟨name_readField hint found, grows, ?_, ?_⟩
  · intro isMade
    rw [name_readField]
    cases found with
    | none => cases isMade
    | some value =>
      rw [readField] at isMade
      split at isMade
      · rename_i isOptions
        obtain ⟨place, rfl⟩ := object_of_classId isOptions
        exact ⟨place, options place rfl, isMade⟩
      · cases isMade
  · intro place isHook isPut
    rw [name_readField] at isHook isPut
    rw [attribute?_hook bare isHook isPut] at reads
    cases reads
    rfl

/-- Reading off the fields of a bare class in turn. -/
theorem settled_ownFields (bare : before.Bare id base isGeneric) {hints : Bindings}
    {own : List RecordField}
    (runs : (ownFields call id hints).run before = (.ok own, after)) :
    fieldNames own = hints.map Prod.fst ∧ before.Grows after ∧
      ∀ field ∈ own, ∃ seen, Settled id before seen field := by
  induction hints generalizing before own with
  | nil =>
    cases runs
    exact ⟨rfl, .refl _, by simp⟩
  | cons hint rest ih =>
    simp only [ownFields, bind_eq, run_store_bind, run_bind_eq_ok, pure_eq_done, run_done] at runs
    obtain ⟨field, between, first, others, _, later, made⟩ := runs
    cases made
    obtain ⟨isName, settled⟩ := settled_fieldOf bare first
    obtain ⟨names, grows, all⟩ := ih (bare.of_grows settled.grows) later
    refine ⟨by rw [fieldNames, List.map_cons, isName, ← fieldNames, names]; rfl,
      settled.grows.trans grows, ?_⟩
    intro other isIn
    rcases List.mem_cons.mp isIn with rfl | isLater
    · exact ⟨between, settled⟩
    · obtain ⟨seen, ofLater⟩ := all other isLater
      refine ⟨seen, settled.grows.trans ofLater.grows, ?_, ?_⟩
      · intro isMade
        obtain ⟨place, isPut, hasFactory⟩ := ofLater.factory isMade
        exact ⟨place, by rwa [settled.grows.classAttribute?_eq] at isPut, hasFactory⟩
      · intro place isHook isPut
        exact ofLater.hook place isHook (by rwa [settled.grows.classAttribute?_eq])

/-! ## Settling defaults -/

theorem classAttribute?_removeClassAttribute_of_ne (store : Store) {part : String}
    (apart : part ≠ name) :
    ((Change.removeClassAttribute id name).apply store).classAttribute? id part =
      store.classAttribute? id part := by
  simp only [Change.apply, modifyClass, classAttribute?, Entries.get?_put_self, Option.bind_some]
  cases Entries.get? store.attributes id with
  | none => rfl
  | some bindings =>
    simp only [Option.getD_some, Option.bind_some]
    induction bindings with
    | nil => rfl
    | cons entry rest ih =>
      obtain ⟨other, value⟩ := entry
      rw [Entries.remove]
      split
      · rename_i isName
        obtain rfl : other = name := by simpa using isName
        rw [Entries.get?, if_neg (by simpa using Ne.symm apart)]
      · simp only [Entries.get?, ih]

/-- What settling the default of a field does. -/
theorem run_settleDefault (id : ClassId) (field : RecordField) (before : Store) :
    ∃ after, (settleDefault id field).run before = (.ok (), after) ∧
      (after = before ∨
        (∃ value, before.classAttribute? id field.name = some value ∧
          value.classId = ClassId.fieldOptions) ∧
        ((∃ default, field.default = some default ∧
            after = (Change.setClassAttribute id field.name default).apply before) ∨
          field.default = none ∧
            after = (Change.removeClassAttribute id field.name).apply before)) := by
  simp only [settleDefault, bind_eq, run_store_bind]
  cases isPut : before.classAttribute? id field.name with
  | none => exact ⟨before, rfl, .inl rfl⟩
  | some value =>
    by_cases isOptions : value.classId = ClassId.fieldOptions
    · simp only [isOptions, if_true]
      cases hasDefault : field.default with
      | none => exact ⟨_, rfl, .inr ⟨⟨value, rfl, isOptions⟩, .inr ⟨rfl, rfl⟩⟩⟩
      | some default =>
        exact ⟨_, rfl, .inr ⟨⟨value, rfl, isOptions⟩, .inl ⟨default, rfl, rfl⟩⟩⟩
    · exact ⟨before, by simp [isOptions], .inl rfl⟩

/-- Nothing but the class changes while its defaults are settled. -/
theorem shapes_settleDefaults {own : List RecordField}
    (runs : (forEach own (settleDefault id)).run before = (.ok (), after)) :
    before.Shapes id after ∧ after.generated = before.generated ∧ after.cells = before.cells := by
  refine forEach_keeps
    (fun store => before.Shapes id store ∧ store.generated = before.generated ∧
      store.cells = before.cells) ?_ ⟨.refl _, rfl, rfl⟩ runs
  intro field _ first second kept step
  obtain ⟨reached, steps, same | ⟨-, ⟨default, -, rfl⟩ | ⟨-, rfl⟩⟩⟩ := run_settleDefault id
    field first
  all_goals
    rw [steps] at step
    cases step
  · rw [same]
    exact kept
  · exact ⟨kept.1.trans (.setClassAttribute _ _), kept.2⟩
  · exact ⟨kept.1.trans (.removeClassAttribute _), kept.2⟩

/-- What does not say more than a default stays on the class. -/
theorem classAttribute?_settleDefaults {own : List RecordField} {found : Option Value}
    (plain : ∀ value, found = some value → value.classId ≠ ClassId.fieldOptions)
    (isFound : before.classAttribute? id name = found)
    (runs : (forEach own (settleDefault id)).run before = (.ok (), after)) :
    after.classAttribute? id name = found := by
  refine forEach_keeps (fun store => store.classAttribute? id name = found) ?_ isFound runs
  intro field _ first second kept step
  obtain ⟨reached, steps, same | ⟨⟨value, isPut, isOptions⟩, change⟩⟩ :=
    run_settleDefault id field first
  · rw [steps] at step
    cases step
    rw [same]
    exact kept
  · rw [steps] at step
    cases step
    have apart : name ≠ field.name := by
      rintro rfl
      rw [kept] at isPut
      exact plain value isPut isOptions
    rcases change with ⟨default, -, rfl⟩ | ⟨-, rfl⟩
    · rw [classAttribute?_setClassAttribute_of_ne _ _ (.inr apart), kept]
    · rw [classAttribute?_removeClassAttribute_of_ne _ apart, kept]

/-- An attribute that is taken off a class is gone. -/
theorem removeClassAttribute_oneEach (one : before.OneEach id) (name : String) :
    ((Change.removeClassAttribute id name).apply before).OneEach id ∧
      ((Change.removeClassAttribute id name).apply before).classAttribute? id name = none := by
  have old : (Entries.keys ((Entries.get? before.attributes id).getD [])).Nodup := by
    cases isOld : Entries.get? before.attributes id with
    | none => simp [Entries.keys]
    | some bindings => exact one bindings isOld
  have apart := Entries.nodup_keys_remove old name
  have gone : Entries.get? (Entries.remove _ name) name = none := Entries.get?_remove_self old
  constructor
  · intro bindings isThere
    simp only [Change.apply, modifyClass, Entries.get?_put_self] at isThere
    cases isThere
    exact apart
  · simp only [classAttribute?, Change.apply, modifyClass, Entries.get?_put_self, Option.bind_some]
    exact gone

/-- The options of a field that has no default do not stay on the class. -/
theorem classAttribute?_settleDefaults_removed (value : Value) {own : List RecordField}
    (isOptions : value.classId = ClassId.fieldOptions)
    (isPut : before.classAttribute? id name = some value)
    (isField : ∃ field ∈ own, field.name = name)
    (bare : ∀ field ∈ own, field.name = name → field.default = none) (one : before.OneEach id)
    (runs : (forEach own (settleDefault id)).run before = (.ok (), after)) :
    after.classAttribute? id name = none := by
  induction own generalizing before with
  | nil =>
    obtain ⟨field, isIn, -⟩ := isField
    cases isIn
  | cons field rest ih =>
    rw [forEach_cons] at runs
    by_cases same : field.name = name
    · subst same
      have removes : (settleDefault id field).run before =
          (.ok (), (Change.removeClassAttribute id field.name).apply before) := by
        simp only [settleDefault, bind_eq, run_store_bind, isPut, isOptions, if_true,
          bare field List.mem_cons_self rfl, run_perform]
      rw [run_bind_of_ok removes] at runs
      exact classAttribute?_settleDefaults (by simp) (removeClassAttribute_oneEach one _).2 runs
    · obtain ⟨reached, steps, change⟩ := run_settleDefault id field before
      rw [run_bind_of_ok steps] at runs
      have later : ∃ other ∈ rest, other.name = name := by
        obtain ⟨other, isIn, isName⟩ := isField
        rcases List.mem_cons.mp isIn with rfl | isLater
        · exact absurd isName same
        · exact ⟨other, isLater, isName⟩
      refine ih ?_ later (fun other isLater => bare other (List.mem_cons_of_mem _ isLater)) ?_ runs
      · rcases change with rfl | ⟨-, ⟨default, -, rfl⟩ | ⟨-, rfl⟩⟩
        · exact isPut
        · rw [classAttribute?_setClassAttribute_of_ne _ _ (.inr (Ne.symm same)), isPut]
        · rw [classAttribute?_removeClassAttribute_of_ne _ (Ne.symm same), isPut]
      · rcases change with rfl | ⟨-, ⟨default, -, rfl⟩ | ⟨-, rfl⟩⟩
        · exact one
        · exact one.setClassAttribute _ _
        · exact (removeClassAttribute_oneEach one _).1

/-! ## Making the class -/

/-- A bare class inherits no fields. -/
theorem Store.inheritedFields_of_bare (bare : before.Bare id base isGeneric) :
    before.inheritedFields id = [] := by
  rw [inheritedFields, bare.ancestors_eq, List.drop_one, List.tail_cons]
  have none : ∀ parents : List ClassId, (∀ parent ∈ parents, before.fieldsOfClass? parent = none) →
      parents.foldl (fun sofar parent =>
        Entries.putAll sofar (((before.fieldsOfClass? parent).getD []).map fun field =>
          (field.name, field))) ([] : List (String × RecordField)) = [] := by
    intro parents without
    induction parents with
    | nil => rfl
    | cons parent rest ih =>
      rw [List.foldl_cons, without parent List.mem_cons_self]
      exact ih fun other isLater => without other (List.mem_cons_of_mem _ isLater)
  apply none
  intro parent isAbove
  exact bare.fieldsOfClass?_above (List.mem_reverse.mp isAbove)

/-- What is put on a class under the name of a hook is nothing, or options without a default. -/
def Hookless (id : ClassId) (hints : Bindings) (before : Store) : Prop :=
  ∀ hook ∈ fieldHooks, before.classAttribute? id hook = none ∨
    ∃ place, before.classAttribute? id hook = some (.object ClassId.fieldOptions place) ∧
      hook ∈ hints.map Prod.fst ∧ ∀ seen, before.Grows seen →
        seen.ownAttribute? (.object ClassId.fieldOptions place) "default" = none

theorem hookless_settleDefaults {own : List RecordField} {hints : Bindings} {between : Store}
    (hookless : Hookless id hints before) (names : fieldNames own = hints.map Prod.fst)
    (settled : ∀ field ∈ own, ∃ seen, Settled id before seen field)
    (one : before.OneEach id) (grows : before.Grows between)
    (runs : (forEach own (settleDefault id)).run between = (.ok (), after)) :
    ∀ hook ∈ fieldHooks, after.classAttribute? id hook = none := by
  intro hook isHook
  rcases hookless hook isHook with unset | ⟨place, isPut, isHint, bare⟩
  · exact classAttribute?_settleDefaults (by simp) (by rw [grows.classAttribute?_eq, unset]) runs
  · refine classAttribute?_settleDefaults_removed (.object ClassId.fieldOptions place) rfl
      (by rw [grows.classAttribute?_eq, isPut]) ?_ ?_ ?_ runs
    · rw [← names] at isHint
      exact List.mem_map.mp isHint
    · intro field isIn isName
      obtain ⟨seen, settled⟩ := settled field isIn
      rw [settled.hook place (by rwa [isName]) (by rwa [isName]), bare seen settled.grows]
    · intro bindings isThere
      rw [grows.attributes_eq] at isThere
      exact one bindings isThere

/-- The words that say how a class is called are put on the class, unless it has some. -/
theorem run_settleDoc {fields : List RecordField}
    (runs : (settleDoc id fields).run before = (.ok (), after)) :
    after = before ∨
      ∃ words, after = (Change.setClassAttribute id "__doc__" words).apply before := by
  simp only [settleDoc, bind_eq, run_store_bind] at runs
  split at runs
  · cases runs
    exact .inl rfl
  · split at runs
    · cases runs
    · cases runs
    · cases runs
      exact .inr ⟨_, rfl⟩

/-- The annotations that the body of a class has noted. -/
def notedHints (store : Store) (id : ClassId) : Bindings :=
  match (store.classAttribute? id "__annotations__").bind store.objectOf? with
  | some (.dict entries) => entries.filterMap fun (key, value) => key.asText?.map (·, value)
  | _ => []

/-- The changes that make a bare class one of fields, once the defaults are settled. -/
theorem run_declareFields_eq_ok (bare : before.Bare id base isGeneric)
    (rooted : ∀ later, before.Shapes id later → later.Intact)
    (apart : ((notedHints before id).map Prod.fst).Nodup)
    (runs : (declareFields call id).run before = (.ok (), after)) :
    ∃ own read between declared,
      (ownFields call id (notedHints before id)).run before = (.ok own, read) ∧
      (forEach own (settleDefault id)).run read = (.ok (), between) ∧
      between.Bare id base isGeneric ∧ Entries.get? between.generated id = some declared ∧
      ∃ marked, (marked = (Change.declareClass id { declared with
            fields := some own
            settles := (between.find id "__post_init__").isSome }).apply between ∨
          ∃ names, marked = (Change.setClassAttribute id "__match_args__" names).apply
            ((Change.declareClass id { declared with
              fields := some own
              settles := (between.find id "__post_init__").isSome }).apply between)) ∧
        (settleDoc id own).run marked = (.ok (), after) := by
  simp only [declareFields, bind_eq, run_store_bind] at runs
  rw [run_bind_eq_ok] at runs
  obtain ⟨own, read, reads, runs⟩ := runs
  obtain ⟨names, grows, -⟩ := settled_ownFields bare reads
  rw [run_bind_eq_ok] at runs
  obtain ⟨⟨⟩, between, settles, runs⟩ := runs
  obtain ⟨shapes, generated, -⟩ := shapes_settleDefaults settles
  have bareToo : between.Bare id base isGeneric :=
    { isRecord := bare.isRecord
      isBase := bare.isBase
      declared := by
        rw [generated, grows.generated_eq]
        exact bare.declared
      intact := rooted between ((Shapes.of_grows grows).trans shapes) }
  have fields : (Entries.putAll (between.inheritedFields id)
      (own.map fun field => (field.name, field))).map Prod.snd = own := by
    rw [Store.inheritedFields_of_bare bareToo, Entries.putAll_of_nodup]
    · simp [Function.comp_def]
    · have unique : (fieldNames own).Nodup := names ▸ apart
      simpa [Entries.keys, Function.comp_def, fieldNames] using unique
  rw [run_store_bind] at runs
  split at runs
  · cases runs
  · rw [fields] at runs
    split at runs
    · cases runs
    · rw [done_bind] at runs
      split at runs
      · rename_i declared isDeclared
        refine ⟨own, read, between, declared, reads, settles, bareToo, isDeclared, ?_⟩
        rw [run_perform_bind] at runs
        split at runs
        · exact ⟨_, .inr ⟨_, rfl⟩, runs⟩
        · exact ⟨_, .inl rfl, runs⟩
      · rename_i isMissing
        obtain ⟨declared, isDeclared, -⟩ := bareToo.declared
        rw [isMissing] at isDeclared
        cases isDeclared

/-- A bare class without a hook that runs once the fields are set does not settle its instances. -/
theorem find_postInit (bare : before.Bare id base isGeneric)
    (unset : before.classAttribute? id "__post_init__" = none) :
    before.find id "__post_init__" = none := by
  have unowned : before.ownFound? id "__post_init__" = none := by
    obtain ⟨serial, home, owner, rfl⟩ := bare.isRecord
    rw [ownFound?, unset, fieldMember?, bare.recordFields?_eq, members_record]
    simp
  have kept : isKept base "__post_init__" = true := by
    rw [isKept, Bool.or_eq_true]
    exact .inr (by decide)
  rw [bare.intact.find_above bare.isRecord bare.isBase bare.ancestors_eq unowned kept,
    find_base bare.isBase]
  rcases bare.isBase with rfl | rfl <;> rfl

/-- A class that was made one of fields: the names of the fields are those that its body annotated,
nothing stands for a hook, and the methods of its body stay. -/
structure Fielded (id base : ClassId) (hints : Bindings) (own : List RecordField)
    (before after : Store) : Prop where
  names : fieldNames own = hints.map Prod.fst
  settled : ∀ field ∈ own, ∃ seen, Settled id before seen field
  shapes : before.Shapes id after
  record : after.HasRecord id base own
  hooks : ∀ hook ∈ fieldHooks, after.classAttribute? id hook = none
  kept : ∀ part value, part ≠ "__match_args__" → part ≠ "__doc__" →
    before.classAttribute? id part = some value → value.classId ≠ ClassId.fieldOptions →
    after.classAttribute? id part = some value
  unset : ∀ part, part ≠ "__match_args__" → part ≠ "__doc__" →
    before.classAttribute? id part = none → after.classAttribute? id part = none

/-- Making a bare class one of fields. -/
theorem fielded_declareFields (bare : before.Bare id base isGeneric)
    (rooted : ∀ later, before.Shapes id later → later.Intact)
    (apart : ((notedHints before id).map Prod.fst).Nodup) (one : before.OneEach id)
    (hookless : Hookless id (notedHints before id) before)
    (runs : (declareFields call id).run before = (.ok (), after)) :
    ∃ own, Fielded id base (notedHints before id) own before after := by
  obtain ⟨own, read, between, declared, reads, settles, bareToo, isDeclared, marked, isMarked,
    ends⟩ := run_declareFields_eq_ok bare rooted apart runs
  obtain ⟨names, grows, settled⟩ := settled_ownFields bare reads
  obtain ⟨shapes, generated, cells⟩ := shapes_settleDefaults settles
  have hooks := hookless_settleDefaults hookless names settled one grows settles
  have quiet : (between.find id "__post_init__").isSome = false := by
    rw [find_postInit bareToo (hooks "__post_init__" (by decide))]
    rfl
  rw [quiet] at isMarked
  have words := run_settleDoc ends
  obtain ⟨found, isFound, above, -⟩ := bareToo.declared
  rw [isDeclared] at isFound
  cases isFound
  have last : between.Shapes id after ∧
      Entries.get? after.generated id =
        some { declared with fields := some own, settles := false } ∧
      (∀ part, (id, part) ∉ after.removed) ∧
      ∀ part, part ≠ "__match_args__" → part ≠ "__doc__" →
        after.classAttribute? id part = between.classAttribute? id part := by
    have fresh : ∀ part, (id, part) ∉ ((Change.declareClass id
        { declared with fields := some own, settles := false }).apply between).removed := by
      intro part isRemoved
      simp [Change.apply, List.mem_filter] at isRemoved
    rcases isMarked with rfl | ⟨matched, rfl⟩ <;> rcases words with rfl | ⟨text, rfl⟩
    · exact ⟨.declareClass _, Entries.get?_put_self _ _ _, fresh, fun _ _ _ => rfl⟩
    · refine ⟨(Shapes.declareClass _).trans (.setClassAttribute _ _), Entries.get?_put_self _ _ _,
        fresh, fun part _ notDoc => ?_⟩
      rw [classAttribute?_setClassAttribute_of_ne _ _ (.inr notDoc)]
      rfl
    · refine ⟨(Shapes.declareClass _).trans (.setClassAttribute _ _), Entries.get?_put_self _ _ _,
        fresh, fun part notMatch _ => ?_⟩
      rw [classAttribute?_setClassAttribute_of_ne _ _ (.inr notMatch)]
      rfl
    · refine ⟨((Shapes.declareClass _).trans (.setClassAttribute _ _)).trans
        (.setClassAttribute _ _), Entries.get?_put_self _ _ _, fresh, fun part notMatch notDoc => ?_⟩
      rw [classAttribute?_setClassAttribute_of_ne _ _ (.inr notDoc),
        classAttribute?_setClassAttribute_of_ne _ _ (.inr notMatch)]
      rfl
  obtain ⟨lastShapes, isThere, present, same⟩ := last
  refine ⟨own, names, settled, ((Shapes.of_grows grows).trans shapes).trans lastShapes,
    ⟨bare.isRecord, bare.isBase, ⟨_, isGeneric, isThere, above, rfl, rfl⟩, present⟩, ?_, ?_, ?_⟩
  · intro hook isHook
    rw [same hook (by rintro rfl; revert isHook; decide) (by rintro rfl; revert isHook; decide)]
    exact hooks hook isHook
  · intro part value notMatch notDoc isPut notOptions
    rw [same part notMatch notDoc]
    refine classAttribute?_settleDefaults ?_ ?_ settles
    · intro other isValue
      cases isValue
      exact notOptions
    · rw [grows.classAttribute?_eq, isPut]
  · intro part notMatch notDoc isUnset
    rw [same part notMatch notDoc]
    exact classAttribute?_settleDefaults (by simp) (by rw [grows.classAttribute?_eq, isUnset])
      settles

end Action

end Deferred
