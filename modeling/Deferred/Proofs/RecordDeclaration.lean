import Deferred.Proofs.RecordFields

/-!
# The declaration of a record class

Running the declaration of a record makes a class below the base that the host has for commands.
Its instances are made of the fields of the record, it has no hooks of its own, and the method that
applies a record is the one that its body defines.
-/

namespace Deferred

open Store Action

/-- The reference host, under the root that it was loaded from. -/
def Host.reference (root : String) : Host where
  root
  world := .cls ClassId.world
  entity := .cls ClassId.entity
  input := .cls ClassId.input
  commands := .cls ClassId.commands
  entityCommands := .cls ClassId.entityCommands
  entityAccess := .cls ClassId.entityAccess
  command := .cls ClassId.command
  entityCommand := .cls ClassId.entityCommand
  systemParams := Host.referenceParams.map .cls

/-- The class that the reference host has for commands of a flavour. -/
def baseOf (forEntity : Bool) : ClassId :=
  if forEntity then ClassId.entityCommand else ClassId.command

theorem commandBase_reference (root : String) (forEntity : Bool) :
    (Host.reference root).commandBase forEntity = .cls (baseOf forEntity) := by
  cases forEntity <;> rfl

theorem isBase_baseOf (forEntity : Bool) :
    baseOf forEntity = ClassId.command ∨ baseOf forEntity = ClassId.entityCommand := by
  cases forEntity
  · exact .inl rfl
  · exact .inr rfl

namespace Code

variable {site : Site} {store before after : Store} {bound : Nat} {base : ClassId}

/-! ## The bases -/

/-- Names that are bound around code mean what they are bound to. -/
def Binds (store : Store) (space : Ref) (uses : List Use) : Prop :=
  ∀ use ∈ uses, Entries.get? (store.names space) (Text.reserved use.1) = some use.2

theorem Binds.means {uses : List Use} (binds : Binds store site.space uses) {name : String}
    {value : Value} (isUse : (name, value) ∈ uses) :
    Means site [] store (Text.reserved name) value :=
  .inr ⟨rfl, binds _ isUse⟩

/-- Applying the class of generic classes changes nothing. -/
theorem applyGeneric_eq_ok {items : List Value} {value : Value}
    (runs : (applyGeneric items).run before = (.ok value, after)) :
    after = before ∧ ∃ given, value = .applied ClassId.generic given 0 := by
  simp only [applyGeneric, bind_eq, run_store_bind] at runs
  split at runs
  · cases runs
  · cases runs
  · cases runs
  · split at runs
    · cases runs
    · split at runs
      · cases runs
      · cases runs
        exact ⟨rfl, _, rfl⟩

theorem evaluateAll_names (locals : Bindings) {uses : List Use}
    (means : ∀ use ∈ uses, Means site locals store (Text.reserved use.1) use.2) :
    (evaluateAll site locals (uses.map fun use => .name (Text.reserved use.1))).run store =
      (.ok (uses.map Prod.snd), store) := by
  apply run_evaluateAll
  induction uses with
  | nil => exact .nil
  | cons use rest ih =>
    refine .cons (run_evaluate_name (means use List.mem_cons_self)) ?_
    exact ih fun other isLater => means other (List.mem_cons_of_mem _ isLater)

/-- The bases of a record are the base of the host and, for generic records, the class of generic
classes. -/
theorem evaluateAll_recordBases {plan : Plan} {written : List Value}
    (binds : Binds before site.space plan.recordUses)
    (isBase : plan.host.commandBase plan.forEntity = .cls base)
    (runs : (evaluateAll site [] plan.recordBases).run before = (.ok written, after)) :
    after = before ∧ (written = [.cls base] ∨
      ∃ given, written = [.cls base, .applied ClassId.generic given 0]) := by
  have ofBase : (evaluate site [] (.name (Text.reserved "base"))).run before =
      (.ok (.cls base), before) := by
    rw [← isBase]
    exact run_evaluate_name (binds.means (by simp [Plan.recordUses]))
  simp only [Plan.recordBases, evaluateAll, bind_eq] at runs
  rw [run_bind_of_ok ofBase] at runs
  split at runs
  · cases runs
    exact ⟨rfl, .inl rfl⟩
  · rename_i isGeneric
    have uses : ∀ use ∈ Plan.typeParameterUses 0 plan.signature.generics,
        use ∈ plan.recordUses := by
      intro use isUse
      simp [Plan.recordUses, isGeneric, isUse]
    have ofHead : (evaluate site [] (.name (Text.reserved "Generic"))).run before =
        (.ok (.cls ClassId.generic), before) := by
      refine run_evaluate_name (binds.means ?_)
      simp [Plan.recordUses, isGeneric, Value.ofClass]
    have ofItems := evaluateAll_names [] fun use isUse =>
      .inr ⟨rfl, binds use (uses use isUse)⟩
    simp only [evaluateAll, evaluate, bind_eq, bind_assoc, pure_eq_done, done_bind] at runs ofHead
    rw [run_bind_of_ok ofHead, run_bind_of_ok ofItems, run_bind_eq_ok] at runs
    obtain ⟨value, between, applies, ends⟩ := runs
    cases ends
    obtain ⟨rfl, given, rfl⟩ := applyGeneric_eq_ok applies
    exact ⟨rfl, .inr ⟨given, rfl⟩⟩

/-! ## The class -/

theorem ancestors_reference {known : ClassId} (intact : store.Intact)
    (isKnown : known = ClassId.generic ∨ known = ClassId.command ∨ known = ClassId.entityCommand) :
    store.ancestors known = ({} : Store).ancestors known := by
  have undeclared : Entries.get? store.generated known = none := by
    rcases isKnown with rfl | rfl | rfl <;> exact intact.declared _ _
  rw [ancestors, undeclared]
  rfl

/-- The bases of a record stand for the base of the host and, for generic records, the class of
generic classes; a class with these bases stands below them. -/
theorem standForBases_record {written : List Value} (intact : store.Intact)
    (isBase : base = ClassId.command ∨ base = ClassId.entityCommand)
    (isWritten : written = [.cls base] ∨
      ∃ given, written = [.cls base, .applied ClassId.generic given 0]) :
    ∃ bases classes isGeneric, (standForBases written).run store = (.ok bases, store) ∧
      (∀ later, classesOf later bases = .ok classes) ∧ makerFor classes = .abstract ∧
      Store.keepLast (classes.flatMap store.ancestors) = aboveRecord base isGeneric := by
  have ofBase := ancestors_reference intact (.inr isBase)
  rcases isWritten with rfl | ⟨given, rfl⟩
  · refine ⟨[.cls base], [base], false, rfl, fun _ => rfl, ?_, ?_⟩
    · rcases isBase with rfl | rfl <;> rfl
    · simp only [List.flatMap_cons, List.flatMap_nil, ofBase, List.append_nil]
      rcases isBase with rfl | rfl <;> decide
  · have ofGeneric := ancestors_reference intact (.inl rfl)
    refine ⟨[.cls base, .cls ClassId.generic], [base, ClassId.generic], true, rfl, fun _ => rfl,
      ?_, ?_⟩
    · rcases isBase with rfl | rfl <;> rfl
    · simp only [List.flatMap_cons, List.flatMap_nil, ofBase, ofGeneric, List.append_nil]
      rcases isBase with rfl | rfl <;> decide

/-- Does the default of a field stay on the class of the record? -/
def staysOnClass (field : Field) : Bool :=
  match field.default with
  | some value => !value.classId.isUnhashable
  | none => false

theorem staysOnClass_of_mem {field : Field}
    (isOption : "default" ∈ (Plan.fieldOptions field).map Prod.fst) : staysOnClass field = true := by
  rw [Plan.fieldOptions] at isOption
  cases isDefault : field.default with
  | none => cases isNamed : field.keywordOnly <;> simp [isDefault, isNamed] at isOption
  | some value =>
    cases isHeld : value.classId.isUnhashable with
    | false => simp [staysOnClass, isDefault, isHeld]
    | true => cases isNamed : field.keywordOnly <;> simp [isDefault, isHeld, isNamed] at isOption

theorem factory_mem_fieldOptions {field : Field}
    (isOption : "default_factory" ∈ (Plan.fieldOptions field).map Prod.fst) :
    ∃ value, field.default = some value ∧ value.classId.isUnhashable = true := by
  rw [Plan.fieldOptions] at isOption
  cases isDefault : field.default with
  | none => cases isNamed : field.keywordOnly <;> simp [isDefault, isNamed] at isOption
  | some value =>
    refine ⟨value, rfl, ?_⟩
    cases isHeld : value.classId.isUnhashable with
    | true => rfl
    | false => cases isNamed : field.keywordOnly <;> simp [isDefault, isHeld, isNamed] at isOption

/-- A class holds the record of a plan: its fields are those of the plan, nothing on it runs while
records are made, and the method that applies a record is the one that its body defines. -/
structure RecordOf (store : Store) (plan : Plan) (id : ClassId) (space : Ref)
    (own : List RecordField) : Prop where
  record : store.HasRecord id (baseOf plan.forEntity) own
  names : fieldNames own = plan.fields.map Field.name
  factories : ∀ field ∈ own, field.factory.isSome → ∃ declared ∈ plan.fields,
    declared.name = field.name ∧ ∃ value, declared.default = some value ∧
      value.classId.isUnhashable = true
  hooks : ∀ hook ∈ fieldHooks, store.classAttribute? id hook = none
  applies : ∃ function, store.classAttribute? id "apply" = some function ∧
    store.RunsCode function ((applyNames plan.forEntity).map .plain) plan.applyBody space

/-- What the names of the fields of a plan have to keep free of, for a record to be no more than
its values. -/
structure PlainNames (plan : Plan) : Prop where
  apart : (plan.fields.map Field.name).Nodup
  notReserved : ∀ field ∈ plan.fields, Text.isReserved field.name = false
  notApply : ∀ field ∈ plan.fields, field.name ≠ "apply"
  quiet : ∀ field ∈ plan.fields, field.name ∈ fieldHooks → staysOnClass field = false

theorem HoldsOptions.of_shapes {id : ClassId} {field : Field} {value : Value}
    (holds : HoldsOptions before field value) (shapes : before.Shapes id after) :
    HoldsOptions after field value := by
  obtain ⟨hasSome, place, rfl, isOld, options⟩ := holds
  refine ⟨hasSome, place, rfl, Nat.lt_of_lt_of_le isOld shapes.size_le, ?_⟩
  obtain ⟨more, isMore⟩ := shapes.cells
  simpa only [Store.attributesOf, Store.cell?, isMore, Array.getElem?_append_left isOld]
    using options

theorem ClassBody.Declares.of_shapes {id : ClassId} {fields noted : List Field} {body : ClassBody}
    (declares : body.Declares before fields noted) (shapes : before.Shapes id after) :
    body.Declares after fields noted where
  hints := declares.hints
  bound name value isBound := by
    rcases declares.bound name value isBound with isDoc | ⟨field, isField, same, holds⟩
    · exact .inl isDoc
    · exact .inr ⟨field, isField, same, holds.of_shapes shapes⟩
  apart := declares.apart

/-- The annotations of the fields, noted in turn, go by the names of the fields. -/
theorem noted_hints {plan : Plan} (names : PlainNames plan) :
    Entries.putAll [] (plan.fields.map fieldHint) = plan.fields.map fieldHint := by
  rw [Entries.putAll_of_nodup, List.nil_append]
  simpa [Entries.keys, fieldHint, Function.comp_def] using names.apart

/-- What a record class is declared with: what its body bound, the method that applies a record, and
the annotations that the body noted. -/
def bodyBindings (body : ClassBody) (function table : Value) : Bindings :=
  declaredBindings { body with bindings := Entries.put body.bindings "apply" function } table

/-- What is bound in a class before it is declared is its method, its table of annotations, its
words or the options of a field. -/
theorem get?_bodyBindings {fields noted : List Field} {body : ClassBody}
    (declares : body.Declares store fields noted) {function table value : Value} {name : String}
    (isBound : Entries.get? (bodyBindings body function table) name = some value) :
    name = "apply" ∧ value = function ∨ name = "__annotations__" ∧ value = table ∨
      name = "__doc__" ∧ (∃ text, value = .ofText text) ∨
      ∃ field ∈ fields, field.name = name ∧ HoldsOptions store field value := by
  have ofPut : ∀ {entries : Bindings} {last : String} {content : Value},
      Entries.get? (Entries.put entries last content) name = some value →
      name = last ∧ value = content ∨ Entries.get? entries name = some value := by
    intro entries last content isPut
    by_cases same : name = last
    · subst same
      rw [Entries.get?_put_self] at isPut
      exact .inl ⟨rfl, (Option.some.inj isPut).symm⟩
    · exact .inr (by rwa [Entries.get?_put_of_ne _ _ same] at isPut)
  have ofBody : Entries.get? (Entries.put body.bindings "apply" function) name = some value →
      name = "apply" ∧ value = function ∨ name = "__doc__" ∧ (∃ text, value = .ofText text) ∨
      ∃ field ∈ fields, field.name = name ∧ HoldsOptions store field value := by
    intro isPut
    rcases ofPut isPut with isApply | isOwn
    · exact .inl isApply
    · exact .inr (declares.bound name value isOwn)
  rw [bodyBindings, declaredBindings] at isBound
  split at isBound
  · rcases ofBody isBound with isApply | isOther
    · exact .inl isApply
    · exact .inr (.inr isOther)
  · rw [Entries.putAll, List.foldl_cons, List.foldl_nil] at isBound
    rcases ofPut isBound with isTable | isOther
    · exact .inr (.inl isTable)
    · rcases ofBody isOther with isApply | isRest
      · exact .inl isApply
      · exact .inr (.inr isRest)

theorem nodup_keys_bodyBindings {fields noted : List Field} {body : ClassBody}
    (declares : body.Declares store fields noted) {function table : Value} :
    (Entries.keys (bodyBindings body function table)).Nodup := by
  have first : (Entries.keys (Entries.put body.bindings "apply" function)).Nodup :=
    Entries.nodup_keys_put declares.apart
  rw [bodyBindings, declaredBindings]
  split
  · exact first
  · exact Entries.nodup_keys_put first

/-- Options that a class was given under the name of a hook hold no default. -/
theorem hookless_record {plan : Plan} {body : ClassBody} {noted : List Field} {id : ClassId}
    {function table : Value} (names : PlainNames plan)
    (declares : body.Declares store plan.fields noted)
    (found : ∀ name value, store.classAttribute? id name = some value →
      Entries.get? (bodyBindings body function table) name = some value) :
    Hookless id (plan.fields.map fieldHint) store := by
  intro hook isHook
  cases isPut : store.classAttribute? id hook with
  | none => exact .inl rfl
  | some value =>
    have apart : hook ≠ "apply" ∧ hook ≠ "__annotations__" ∧ hook ≠ "__doc__" := by
      refine ⟨?_, ?_, ?_⟩ <;> rintro rfl <;> revert isHook <;> decide
    rcases get?_bodyBindings declares (found hook value isPut) with
      ⟨isApply, -⟩ | ⟨isTable, -⟩ | ⟨isDoc, -⟩ | ⟨field, isField, isName, holds⟩
    · exact absurd isApply apart.1
    · exact absurd isTable apart.2.1
    · exact absurd isDoc apart.2.2
    · obtain ⟨-, place, rfl, isOld, options⟩ := holds
      refine .inr ⟨place, rfl, ?_, ?_⟩
      · rw [List.map_map]
        exact List.mem_map.mpr ⟨field, isField, isName⟩
      · intro seen grows
        rw [grows.ownAttribute?_eq isOld, Store.ownAttribute?, Entries.get?_eq_none_iff,
          Entries.keys, options]
        intro isOption
        have stays := staysOnClass_of_mem isOption
        rw [names.quiet field isField (isName ▸ isHook)] at stays
        cases stays

/-- A class that was declared below a base of the host is bare, and stays above nothing but what is
untouched. -/
theorem bare_of_declared {id : ClassId} {declared : GeneratedClass} {body : Bindings}
    {isGeneric : Bool} (isDeclared : Declared id declared body before after)
    (intact : before.Intact)
    (isRecord : ∃ serial home name, id = .record serial home name .abstract)
    (isBase : base = ClassId.command ∨ base = ClassId.entityCommand)
    (above : declared.ancestors = id :: aboveRecord base isGeneric)
    (plain : declared.fields = none) :
    after.Bare id base isGeneric ∧ ∀ later, after.Shapes id later → later.Intact := by
  have rooted : ∀ later, after.Shapes id later → later.Intact := by
    intro later shapes
    have given := Nat.lt_of_lt_of_le isDeclared.given shapes.count
    exact ((isDeclared.shapes.trans shapes).builds 0 isDeclared.isNew isDeclared.isNumber
      given).intact intact
  exact ⟨⟨isRecord, isBase, ⟨declared, isDeclared.isDeclared, above, plain⟩,
    rooted after (.refl _)⟩, rooted⟩

/-- What the body of a record class noted and bound, with the table that the class gets. -/
structure BodyOf (store : Store) (plan : Plan) (space : Ref) (body : ClassBody)
    (function table : Value) : Prop where
  declares : body.Declares store plan.fields plan.fields
  applies : store.RunsCode function ((applyNames plan.forEntity).map .plain) plan.applyBody space
  isTable : HoldsTable store body.hints table

/-- The table of annotations that a class has once it is declared. -/
theorem notedHints_declared {plan : Plan} {id : ClassId} {body : ClassBody} {space : Ref}
    {function table : Value} {declared : GeneratedClass} {between : Store}
    (names : PlainNames plan) (isBody : BodyOf before plan space body function table)
    (isDeclared : Declared id declared (bodyBindings body function table) before between) :
    notedHints between id = body.hints := by
  rw [notedHints]
  by_cases isEmpty : body.hints = []
  · have unset : between.classAttribute? id "__annotations__" = none := by
      cases isPut : between.classAttribute? id "__annotations__" with
      | none => rfl
      | some value =>
        have isBound := isDeclared.found _ _ isPut
        rw [bodyBindings, declaredBindings, if_pos (by simp [isEmpty]), Entries.putAll, List.foldl_nil,
          Entries.get?_put_of_ne _ _ (by decide)] at isBound
        rcases isBody.declares.bound _ _ isBound with ⟨isDoc, -⟩ | ⟨field, isField, -⟩
        · exact absurd isDoc (by decide)
        · have noted := isBody.declares.hints
          rw [isEmpty, noted_hints names] at noted
          simp [List.map_eq_nil_iff.mp noted.symm] at isField
    rw [unset, isEmpty]
    rfl
  · obtain ⟨place, rfl, stands⟩ := isBody.isTable isEmpty
    have isBound : Entries.get? (bodyBindings body function (.object ClassId.dict place))
        "__annotations__" = some (.object ClassId.dict place) := by
      rw [bodyBindings, declaredBindings, if_neg (by simpa using isEmpty), Entries.putAll, List.foldl_cons,
        List.foldl_nil, Entries.get?_put_self]
    rw [isDeclared.put _ _ (by decide) (by decide) isBound, Option.bind_some, Store.objectOf?,
      isDeclared.shapes.object? stands]
    simp [List.filterMap_map, Value.ofText, Value.asText?]

/-- What is declared with the body of a record has no name of its own, unless a field is called
that. -/
theorem unnamed_declared {plan : Plan} {id : ClassId} {body : ClassBody} {space : Ref}
    {function table : Value} {declared : GeneratedClass} {between : Store}
    (isBody : BodyOf before plan space body function table)
    (isDeclared : Declared id declared (bodyBindings body function table) before between)
    (unnamed : ∀ field ∈ plan.fields, field.name ≠ "__name__") :
    between.classAttribute? id "__name__" = none := by
  have declares := isBody.declares.of_shapes isDeclared.shapes
  cases isPut : between.classAttribute? id "__name__" with
  | none => rfl
  | some value =>
    rcases get?_bodyBindings declares (isDeclared.found _ _ isPut) with
      ⟨isApply, -⟩ | ⟨isTable, -⟩ | ⟨isDoc, -⟩ | ⟨field, isField, isName, -⟩
    · exact absurd isApply (by decide)
    · exact absurd isTable (by decide)
    · exact absurd isDoc (by decide)
    · exact absurd isName (unnamed field isField)

/-- A field that makes its default anew was declared with a default that is not hashable. -/
theorem unhashable_of_factory {plan : Plan} {id : ClassId} {body : ClassBody} {space : Ref}
    {function table : Value} {declared : GeneratedClass} {between seen : Store}
    {field : RecordField} (isBody : BodyOf before plan space body function table)
    (isDeclared : Declared id declared (bodyBindings body function table) before between)
    (hasSome : body.hints ≠ []) (settled : Settled id between seen field)
    (isMade : field.factory.isSome) :
    ∃ source ∈ plan.fields, source.name = field.name ∧ ∃ value, source.default = some value ∧
      value.classId.isUnhashable = true := by
  have declares := isBody.declares.of_shapes isDeclared.shapes
  obtain ⟨place, isPut, isOption⟩ := settled.factory isMade
  -- The factory is one of the options of a field, and nothing else that the body bound has options.
  rcases get?_bodyBindings declares (isDeclared.found _ _ isPut) with
    ⟨-, same⟩ | ⟨-, same⟩ | ⟨-, text, same⟩ | ⟨source, isSource, isName, holds⟩
  · obtain ⟨there, content, rfl, -⟩ := isBody.applies
    exact absurd (Value.object.inj same).1 (by decide)
  · obtain ⟨there, rfl, -⟩ := isBody.isTable hasSome
    exact absurd (Value.object.inj same).1 (by decide)
  · cases same
  · obtain ⟨-, there, same, isOld, options⟩ := holds
    cases same
    rw [settled.grows.ownAttribute?_eq isOld, Store.ownAttribute?] at isOption
    refine ⟨source, isSource, isName, factory_mem_fieldOptions ?_⟩
    rw [← options]
    by_contra isOut
    rw [Entries.get?_eq_none_iff.mpr isOut] at isOption
    cases isOption

theorem get?_bodyBindings_apply (body : ClassBody) (function table : Value) :
    Entries.get? (bodyBindings body function table) "apply" = some function := by
  rw [bodyBindings, declaredBindings]
  split
  · rw [Entries.putAll, List.foldl_nil, Entries.get?_put_self]
  · rw [Entries.putAll, List.foldl_cons, List.foldl_nil, Entries.get?_put_of_ne _ _ (by simp),
      Entries.get?_put_self]

/-- A class that was declared with what the body of a record bound, and then made one of fields,
holds the record. -/
theorem recordOf_declareFields {plan : Plan} {id : ClassId} {body : ClassBody} {space : Ref}
    {function table : Value} {declared : GeneratedClass} {isGeneric : Bool} {call : Caller}
    {between : Store} (names : PlainNames plan)
    (isBody : BodyOf before plan space body function table)
    (isDeclared : Declared id declared (bodyBindings body function table) before between)
    (bare : between.Bare id (baseOf plan.forEntity) isGeneric)
    (rooted : ∀ later, between.Shapes id later → later.Intact)
    (runs : (declareFields call id).run between = (.ok (), after)) :
    (∃ own, RecordOf after plan id space own) ∧ between.Shapes id after ∧
      ((∀ field ∈ plan.fields, field.name ≠ "__name__") →
        after.classAttribute? id "__name__" = none) := by
  have noted := notedHints_declared names isBody isDeclared
  have hints := isBody.declares.hints
  rw [noted_hints names] at hints
  have hintNames : body.hints.map Prod.fst = plan.fields.map Field.name := by
    rw [hints, List.map_map]
    rfl
  have declares := isBody.declares.of_shapes isDeclared.shapes
  obtain ⟨own, fielded⟩ := fielded_declareFields bare rooted
    (by rw [noted, hintNames]; exact names.apart) isDeclared.oneEach
    (by rw [noted, hints]; exact hookless_record names declares isDeclared.found) runs
  have ownNames : fieldNames own = plan.fields.map Field.name := by
    rw [fielded.names, noted, hintNames]
  refine ⟨⟨own, fielded.record, ownNames, ?_, fielded.hooks, function, ?_, ?_⟩, fielded.shapes, ?_⟩
  · intro field isField isMade
    obtain ⟨seen, settled⟩ := fielded.settled field isField
    refine unhashable_of_factory isBody isDeclared ?_ settled isMade
    intro isEmpty
    rw [isEmpty, List.map_nil, ← ownNames] at hintNames
    simp [List.map_eq_nil_iff.mp hintNames.symm] at isField
  · refine fielded.kept _ _ (by decide) (by decide) ?_ ?_
    · exact isDeclared.put _ _ (by decide) (by decide) (get?_bodyBindings_apply _ _ _)
    · obtain ⟨there, content, rfl, -⟩ := isBody.applies
      exact (by decide : ClassId.function ≠ ClassId.fieldOptions)
  · exact fielded.shapes.runsCode (isDeclared.shapes.runsCode isBody.applies)
  · exact fun unnamed =>
      fielded.unset _ (by decide) (by decide) (unnamed_declared isBody isDeclared unnamed)

theorem callStandard_dataclass (machine : Machine) (id : ClassId) :
    (callStandard machine "dataclass" (.ofList [.cls id])).run before =
      ((declareFields machine.call id).bind fun _ => done (.cls id)).run before := rfl

/-- The names that a class of fields is declared with. -/
structure RecordSource (site : Site) (store : Store) (bound : Nat) (plan : Plan) : Prop where
  onMachine : site.machine = Action.machine bound
  isBase : plan.host.commandBase plan.forEntity = .cls (baseOf plan.forEntity)
  binds : Binds store site.space plan.recordUses

theorem RecordSource.recordSite {plan : Plan} (source : RecordSource site store bound plan)
    (names : PlainNames plan) : RecordSite site store bound plan.fields where
  onMachine := source.onMachine
  options hasSome := by
    obtain ⟨field, isField, options⟩ := hasSome
    refine source.binds ("field", .builtin "field") ?_
    have isUse : ("field", Value.builtin "field") ∈ Plan.fieldUses field := by
      simp [Plan.fieldUses, options]
    simp only [Plan.recordUses, List.mem_cons, List.mem_append, List.mem_flatMap]
    exact .inl (.inr (.inr ⟨field, isField, isUse⟩))
  free := names.notReserved

theorem RecordSource.evaluateAll_decorators {plan : Plan}
    (source : RecordSource site store bound plan) :
    (evaluateAll site [] [.name (Text.reserved "dataclass")]).run store =
      (.ok [.builtin "dataclass"], store) := by
  refine run_evaluateAll (.cons (run_evaluate_name (source.binds.means ?_)) .nil)
  simp [Plan.recordUses]

/-- Declaring a class with the body of a record makes a bare class. -/
theorem bare_of_recordBody {plan : Plan} {origin : Origin} {name home : String}
    {result : ClassBody} {table declared : Value} {parents written : List Value}
    {classes : List ClassId} {isGeneric : Bool} {ran settled reached : Store}
    (names : PlainNames plan) (source : RecordSource site before bound plan)
    (intact : before.Intact) (areClasses : ∀ later, classesOf later parents = .ok classes)
    (isAbstract : makerFor classes = .abstract)
    (above : Store.keepLast (classes.flatMap before.ancestors) =
      aboveRecord (baseOf plan.forEntity) isGeneric)
    (ofBody : (executeAllInClass site origin name {} plan.recordBody).run before =
      (.ok result, ran))
    (grows : ran.Grows settled) (isTable : HoldsTable settled result.hints table)
    (declares : (declareClass true name home parents (variablesOf written)
      (declaredBindings result table)).run settled = (.ok declared, reached)) :
    ∃ id body function described, declared = .cls id ∧ id.name = name ∧
      BodyOf settled plan site.space body function table ∧
      Declared id described (bodyBindings body function table) settled reached ∧
      reached.Bare id (baseOf plan.forEntity) isGeneric ∧
      (∀ later, reached.Shapes id later → later.Intact) ∧ before.Grows settled := by
  obtain ⟨body, function, isBody, rfl, applies, growsFirst⟩ :=
    declares_recordBody (source.recordSite names) ofBody
  have fits : BodyOf settled plan site.space body function table :=
    ⟨isBody.of_grows grows, applies.of_grows grows, isTable⟩
  have grown := growsFirst.trans grows
  have rooted := intact.of_grows grown
  obtain ⟨rfl, isDeclared⟩ := declared_of_declareClass _ rooted (areClasses _)
    (nodup_keys_bodyBindings fits.declares) declares
  have isRecord : ∃ serial place owner, declaredId true settled home name classes =
      .record serial place owner .abstract := by
    refine ⟨settled.generated.length, home, name, ?_⟩
    rw [declaredId, isAbstract]
    rfl
  have isAbove : ∀ id : ClassId, id :: Store.keepLast (classes.flatMap settled.ancestors) =
      id :: aboveRecord (baseOf plan.forEntity) isGeneric := by
    intro id
    rw [← above, funext grown.ancestors_eq]
  obtain ⟨bare, later⟩ := bare_of_declared isDeclared rooted isRecord (isBase_baseOf _)
    (isAbove _) rfl
  have isNamed : (declaredId true settled home name classes).name = name := rfl
  exact ⟨_, body, function, _, rfl, isNamed, fits, isDeclared, bare, later, grown⟩

/-- The declaration of the record of a plan, when it runs, makes a class that holds the record. -/
theorem makeClass_record {plan : Plan} {origin : Origin} {name : String} {made : Value}
    (names : PlainNames plan) (source : RecordSource site before bound plan)
    (intact : before.Intact)
    (kept : Statement.renamedAll (.inside name) plan.recordBody = plan.recordBody)
    (runs : (makeClass site origin [.name (Text.reserved "dataclass")] name plan.recordBases
      plan.recordBody).run before = (.ok made, after)) :
    ∃ id own, made = .cls id ∧ RecordOf after plan id site.space own ∧
      ((∀ field ∈ plan.fields, field.name ≠ "__name__") → after.className id = name) ∧
      before.Builds site.space [] [] after := by
  have ofDecorators := source.evaluateAll_decorators
  have evaluates := runs
  simp only [makeClass, bind_eq] at evaluates
  rw [run_bind_of_ok ofDecorators, run_bind_eq_ok] at evaluates
  obtain ⟨written, reached, ofBases, -⟩ := evaluates
  obtain ⟨rfl, isWritten⟩ := evaluateAll_recordBases source.binds source.isBase ofBases
  obtain ⟨parents, classes, isGeneric, stands, areClasses, isAbstract, above⟩ :=
    standForBases_record intact (isBase_baseOf _) isWritten
  obtain ⟨result, table, home, ran, settled, declared, between, ofBody, grows, isTable, declares,
    decorates⟩ := makeClass_eq_ok _ ofDecorators ofBases stands areClasses runs
  rw [kept] at ofBody
  simp only [List.isEmpty_cons, Bool.not_false] at declares
  obtain ⟨id, body, function, described, rfl, isNamed, fits, isDeclared, bare, later, grown⟩ :=
    bare_of_recordBody names source intact areClasses isAbstract above ofBody grows isTable declares
  simp only [decorate, bind_eq, pure_eq_done, done_bind, source.onMachine] at decorates
  obtain ⟨depth, -, called⟩ := exists_callStep decorates
  rw [callStep_builtin, callStandard_dataclass, run_bind_eq_ok] at called
  obtain ⟨⟨⟩, last, fields, ends⟩ := called
  cases ends
  obtain ⟨⟨own, isRecordOf⟩, shapes, unset⟩ :=
    recordOf_declareFields names fits isDeclared bare later fields
  refine ⟨_, own, rfl, isRecordOf, fun unnamed => ?_, ?_⟩
  · rw [className, givenName, unset unnamed, isNamed]
  · have given := Nat.lt_of_lt_of_le isDeclared.given shapes.count
    exact (Builds.closed_of_grows _ grown).trans
      ((isDeclared.shapes.trans shapes).builds _ isDeclared.isNew isDeclared.isNumber given)

end Code

end Deferred
