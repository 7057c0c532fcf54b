import Deferred.Proofs.ExtensionDeclaration
import Deferred.Proofs.Uses

/-!
# Assembling a command

Running the text of a command leaves a record class, the function that routes the outcome together
with the public routine, and a method with an implementation for each type that takes the command.
All of them run their code among the names that the command uses.
-/

namespace Deferred

open Store Action

namespace Plan

/-! ## The names that the text binds -/

/-- The names that the text of a command binds for itself. -/
def ownNames : List String :=
  [Code.recordAlias, Code.extensionAlias, Code.methodName, Code.routineName, Code.routeName,
    Code.implementationsName, Code.queuedName, Code.directName]

theorem isReserved_reserved (name : String) : Text.isReserved (Text.reserved name) = true := by
  rw [Text.isReserved, Text.reserved, String.toList_append, List.isPrefixOf_iff_prefix]
  exact List.prefix_append _ _

theorem isReserved_of_mem_ownNames {name : String} (isOwn : name ∈ ownNames) :
    Text.isReserved name = true := by
  revert name
  decide

/-- A name that is not kept for generated code is none that the code binds. -/
theorem ne_reserved {chosen : String} (free : Text.isReserved chosen = false) (name : String) :
    Text.reserved name ≠ chosen := by
  rintro rfl
  rw [isReserved_reserved] at free
  cases free

/-- What a command uses goes by no name that its text binds. -/
theorem reserved_notMem_ownNames {plan : Plan} {use : Use} (isUse : use ∈ plan.uses) :
    Text.reserved use.1 ∉ ownNames := by
  have ofConstant : ∀ entry ∈ plan.constantUses, Text.reserved entry.1 ∉ ownNames := by
    rw [constantUses, List.forall_mem_append, List.forall_mem_append]
    refine ⟨⟨?_, ?_⟩, ?_⟩
    · simp only [List.forall_mem_cons]
      decide
    · rw [List.forall_mem_map]
      exact fun _ _ => (by decide : Text.reserved "ok" ∉ ownNames)
    · rw [List.forall_mem_map]
      exact fun _ _ => (by decide : Text.reserved "err" ∉ ownNames)
  have bare : ∀ name ∈ ["record", "trait", "method", "routine", "route", "implementations",
      "queued_impl", "direct_impl"], opening name = 0 := by
    decide
  have isOwn : ownNames = ["record", "trait", "method", "routine", "route", "implementations",
      "queued_impl", "direct_impl"].map Text.reserved := rfl
  have ofOpening : opening use.1 ≠ 0 → Text.reserved use.1 ∉ ownNames := by
    intro opens isIn
    rw [isOwn] at isIn
    obtain ⟨name, isName, same⟩ := List.mem_map.mp isIn
    rw [Code.reserved_inj] at same
    exact opens (same ▸ bare name isName)
  cases known_uses isUse with
  | constant isConstant => exact ofConstant use isConstant
  | typeParameter index type isType => exact ofOpening (by simp [opening_type])
  | hint field isField => exact ofOpening (by simp [opening_hint])
  | default field isField value isDefault => exact ofOpening (by simp [opening_default])
  | declared isExclusive parameter isParameter value isDefault =>
    exact ofOpening (by simp [opening_default])

end Plan

namespace Code

variable {site : Site} {origin : Origin} {before after store : Store} {bound : Nat} {plan : Plan}
  {id : ClassId} {own : List RecordField}

/-! ## What the text is run among -/

/-- A text is run among everything that its command uses, on the reference host. -/
structure Setting (site : Site) (store : Store) (bound : Nat) (plan : Plan) : Prop where
  onMachine : site.machine = Action.machine bound
  isSpace : store.IsSpace site.space
  intact : store.Intact
  host : ∃ root, plan.host = Host.reference root
  binds : Binds store site.space plan.uses

/-- Names that can be written without a change to what the code uses. -/
def Harmless (plan : Plan) (written : List String) : Prop :=
  ∀ name ∈ written, Text.isReserved name = false ∨ name ∈ Plan.ownNames

theorem Harmless.unwritten {written : List String} (harmless : Harmless plan written) {use : Use}
    (isUse : use ∈ plan.uses) : Text.reserved use.1 ∉ written := by
  intro isWritten
  rcases harmless _ isWritten with free | isOwn
  · rw [Plan.isReserved_reserved] at free
    cases free
  · exact Plan.reserved_notMem_ownNames isUse isOwn

theorem Setting.of_builds {written : List String} {opened : List Ref}
    (setting : Setting site before bound plan) (harmless : Harmless plan written)
    (builds : before.Builds site.space written opened after) : Setting site after bound plan where
  onMachine := setting.onMachine
  isSpace := builds.isSpace setting.isSpace
  intact := builds.intact setting.intact
  host := setting.host
  binds := setting.binds.of_builds builds setting.isSpace fun _ isUse => harmless.unwritten isUse

theorem Setting.means (setting : Setting site store bound plan) (name : String) (value : Value)
    (isUse : (name, value) ∈ plan.uses) :
    Comes site [] store (.name (Text.reserved name)) value :=
  run_evaluate_name (setting.binds.means isUse)

theorem Setting.recordSource (setting : Setting site store bound plan) :
    RecordSource site store bound plan where
  onMachine := setting.onMachine
  isBase := by
    obtain ⟨root, isHost⟩ := setting.host
    rw [isHost, commandBase_reference]
  binds use isUse := setting.binds use (by simp [Plan.uses, isUse])

theorem comes_of_get? {name : String} {value : Value}
    (means : Entries.get? (store.names site.space) name = some value) :
    Comes site [] store (.name name) value :=
  run_evaluate_name (.inr ⟨rfl, means⟩)

/-! ## The record -/

/-- The name under which the text goes on to use the record. -/
structure HasAlias (store : Store) (plan : Plan) (space : Ref) (id : ClassId)
    (own : List RecordField) : Prop where
  means : Entries.get? (store.names space) recordAlias = some (.cls id)
  record : RecordOf store plan id space own

theorem HasAlias.of_builds {written : List String} (isAlias : HasAlias before plan site.space id own)
    (isSpace : before.IsSpace site.space) (unwritten : recordAlias ∉ written)
    (builds : before.Builds site.space written [] after) :
    HasAlias after plan site.space id own where
  means := by rw [builds.get?_names isSpace unwritten, isAlias.means]
  record := (Keeps.of_builds builds).recordOf isAlias.record

theorem run_recordCode (names : PlainNames plan) (setting : Setting site before bound plan)
    (kept : Statement.renamedAll (.inside plan.options.recordName) plan.recordBody =
      plan.recordBody)
    (runs : (forEach plan.recordCode (executeAtTop site origin)).run before = (.ok (), after)) :
    ∃ id own, HasAlias after plan site.space id own ∧
      ((∀ field ∈ plan.fields, field.name ≠ "__name__") →
        after.className id = plan.options.recordName) ∧
      before.Builds site.space [plan.options.recordName, recordAlias] [] after := by
  simp only [Plan.recordCode, forEach_cons_eq_ok] at runs
  obtain ⟨declared, declares, spaced, blank, last, assigns, ends⟩ := runs
  cases ends
  cases blank
  rw [executeAtTop, bind_eq, run_bind_eq_ok] at declares
  obtain ⟨made, between, makes, sets⟩ := declares
  obtain ⟨id, own, rfl, isRecord, isNamed, builds⟩ :=
    makeClass_record names setting.recordSource setting.intact kept makes
  cases sets
  have isSpace := builds.isSpace setting.isSpace
  have first := Builds.setName site.space between
    plan.options.recordName (.cls id)
  rw [run_assign (comes_of_get? (get?_setName isSpace _ _))] at assigns
  cases assigns
  have second := Builds.setName site.space
    ((Change.setName site.space plan.options.recordName (.cls id)).apply between) recordAlias
    (.cls id)
  refine ⟨id, own, ⟨get?_setName (first.isSpace isSpace) _ _,
    (Keeps.of_builds second).recordOf ((Keeps.of_builds first).recordOf isRecord)⟩, isNamed, ?_⟩
  simpa using (builds.trans first).trans second

/-! ## The routing -/

theorem defaultsMean_of_binds {uses : List Use} {fields : List Field}
    (binds : Binds store site.space uses) (within : ∀ use ∈ Plan.parameterUses fields, use ∈ uses) :
    DefaultsMean site [] store fields := by
  intro field isField value isDefault
  refine binds.means (within _ ?_)
  have isUse : (Field.defaultName field.name, value) ∈ field.defaultUse := by
    simp [Field.defaultUse, isDefault]
  simp only [Plan.parameterUses, List.mem_append, List.mem_flatMap, List.mem_filter]
  cases isNamed : field.keywordOnly with
  | true => exact .inr ⟨field, ⟨isField, isNamed⟩, isUse⟩
  | false => exact .inl ⟨field, ⟨isField, by simp [isNamed]⟩, isUse⟩

/-- The parameters that the public routine of a command takes. -/
def routineTakes (plan : Plan) : List CallParameter :=
  match plan.mode with
  | .exclusive => plan.signature.parameters.map declaredParameter
  | .scheduled =>
    fieldParameters plan.fields (if plan.forEntity then [worldName, entityName] else [worldName])

theorem run_routineParameters (setting : Setting site store bound plan)
    (isRouted : plan.isRouted = true) (writable : Writable plan.signature.parameters) :
    (parametersOf site [] false plan.routineParameters).run store =
      (.ok (routineTakes plan), store) := by
  rw [Plan.routineParameters, routineTakes]
  cases mode : plan.mode with
  | exclusive =>
    refine run_parametersOf_declaredItems writable (by simp) ?_
    intro parameter isParameter value isDefault
    refine setting.binds.means ?_
    simp only [Plan.uses, isRouted, if_true, List.mem_append, Plan.routingUses, mode]
    refine .inl (.inr (.inr (.inl ?_)))
    exact List.mem_filterMap.mpr ⟨parameter, isParameter, by simp [isDefault]⟩
  | scheduled =>
    refine run_parametersOf_parameterList (defaultsMean_of_binds setting.binds ?_)
    intro use isUse
    simp [Plan.uses, isRouted, Plan.routingUses, mode, isUse]

/-- The function that hands an outcome on and the public routine, under their names. -/
structure HasRouting (store : Store) (plan : Plan) (space : Ref) (route routine : Value) : Prop where
  isRoute : Entries.get? (store.names space) routeName = some route
  routes : store.RunsCode route (["world", "outcome"].map .plain) plan.routeBody space
  isRoutine : Entries.get? (store.names space) routineName = some routine
  answers : store.RunsCode routine (routineTakes plan) plan.routineBody space
  isAfter : IsAfter space routine

theorem HasRouting.of_builds {written : List String} {route routine : Value}
    (isRouting : HasRouting before plan site.space route routine)
    (isSpace : before.IsSpace site.space)
    (unwritten : routeName ∉ written ∧ routineName ∉ written)
    (builds : before.Builds site.space written [] after) :
    HasRouting after plan site.space route routine where
  isRoute := by rw [builds.get?_names isSpace unwritten.1, isRouting.isRoute]
  routes := builds.runsCode isRouting.routes
  isRoutine := by rw [builds.get?_names isSpace unwritten.2, isRouting.isRoutine]
  answers := builds.runsCode isRouting.answers
  isAfter := isRouting.isAfter

theorem run_routingCode (setting : Setting site before bound plan)
    (isRouted : plan.isRouted = true) (writable : Writable plan.signature.parameters)
    (runs : (forEach plan.routingCode (executeAtTop site origin)).run before = (.ok (), after)) :
    ∃ route routine, HasRouting after plan site.space route routine ∧
      before.Builds site.space [routeName, routineName] [] after := by
  simp only [Plan.routingCode, forEach_cons_eq_ok] at runs
  obtain ⟨between, first, spaced, blank, last, second, ends⟩ := runs
  cases ends
  cases blank
  have declared : (parametersOf site [] false [.required "world", .required "outcome"]).run before =
      (.ok (["world", "outcome"].map .plain), before) :=
    run_parametersOf_leading ["world", "outcome"] rfl rfl
  obtain ⟨route, isRoute, -, routes⟩ := define_plain setting.isSpace declared first
  have harmless : Harmless plan [routeName] := by
    intro name isName
    exact .inr (by rw [List.mem_singleton.mp isName]; decide)
  have later := setting.of_builds harmless isRoute.builds
  obtain ⟨routine, isRoutine, isAfter, answers⟩ :=
    define_plain later.isSpace (run_routineParameters later isRouted writable) second
  refine ⟨route, routine, ⟨?_, isRoutine.builds.runsCode routes, isRoutine.means, answers,
    isAfter⟩, ?_⟩
  · rw [isRoutine.builds.get?_names later.isSpace (by decide), isRoute.means]
  · simpa using isRoute.builds.trans isRoutine.builds

end Code

end Deferred
