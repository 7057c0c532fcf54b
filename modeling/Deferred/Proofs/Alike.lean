import Deferred.Data.Pairing
import Deferred.Proofs.FieldOrder
import Deferred.Proofs.Generated
import Deferred.Proofs.Printing

/-!
# Definitions of one shape

The text of a command depends on the shape of its definition alone: the names, kinds and roles of
the parameters, the layout of the input, which defaults there are and which of them can change, and
the options.  Two definitions of one shape have one text, whatever their annotations, defaults,
handlers, host types and bodies are.  Each function that writes a part of the code is taken in turn:
it reads its definition only through the shape.
-/

namespace Deferred

open Text Classification Action

namespace Plan

/-- Two plans are of one shape. -/
structure Alike (plan other : Plan) : Prop where
  parameters :
    plan.signature.parameters.map (fun parameter =>
        (parameter.name, parameter.kind, parameter.default.isSome)) =
      other.signature.parameters.map fun parameter =>
        (parameter.name, parameter.kind, parameter.default.isSome)
  roles : plan.classification.roles.map Prod.snd = other.classification.roles.map Prod.snd
  input :
    plan.classification.piped.map (fun piped => (piped.names, piped.shape, piped.entityIndex)) =
      other.classification.piped.map fun piped => (piped.names, piped.shape, piped.entityIndex)
  /-- Which fields have a default, and which of these can change. -/
  defaults :
    plan.fields.map (fun field => field.default.map (·.classId.isUnhashable)) =
      other.fields.map fun field => field.default.map (·.classId.isUnhashable)
  mode : plan.mode = other.mode
  forEntity : plan.forEntity = other.forEntity
  chainable : plan.signature.chainable = other.signature.chainable
  generics : plan.signature.generics.length = other.signature.generics.length
  doc : plan.signature.doc = other.signature.doc
  noExtension : plan.options.noExtension = other.options.noExtension
  noDirect : plan.options.noDirect = other.options.noDirect
  recordName : plan.options.recordName = other.options.recordName
  extensionName : plan.options.extensionName = other.options.extensionName
  methodName : plan.options.methodName = other.options.methodName
  onSuccess : plan.options.onSuccess.isSome = other.options.onSuccess.isSome
  onFailure : plan.options.onFailure.isSome = other.options.onFailure.isSome

instance (plan other : Plan) : Decidable (Alike plan other) :=
  decidable_of_iff (_ ∧ _ ∧ _ ∧ _ ∧ _ ∧ _ ∧ _ ∧ _ ∧ _ ∧ _ ∧ _ ∧ _ ∧ _ ∧ _ ∧ _ ∧ _)
    ⟨fun ⟨parameters, roles, input, defaults, mode, forEntity, chainable, generics, doc,
        noExtension, noDirect, recordName, extensionName, methodName, onSuccess, onFailure⟩ =>
      { parameters, roles, input, defaults, mode, forEntity, chainable, generics, doc,
        noExtension, noDirect, recordName, extensionName, methodName, onSuccess, onFailure },
    fun alike => ⟨alike.parameters, alike.roles, alike.input, alike.defaults, alike.mode,
      alike.forEntity, alike.chainable, alike.generics, alike.doc, alike.noExtension,
      alike.noDirect, alike.recordName, alike.extensionName, alike.methodName, alike.onSuccess,
      alike.onFailure⟩⟩

/-! ## Lists of one shape -/

/-- Two parameters with their roles are of one shape. -/
def SameEntry (entry other : Parameter × Role) : Prop :=
  (entry.1.name, entry.1.kind, entry.1.default.isSome) =
      (other.1.name, other.1.kind, other.1.default.isSome) ∧ entry.2 = other.2

/-- Two fields are of one shape. -/
structure SameField (field other : Field) : Prop where
  name : field.name = other.name
  keywordOnly : field.keywordOnly = other.keywordOnly
  default : field.default.map (·.classId.isUnhashable) =
    other.default.map (·.classId.isUnhashable)

variable {plan other : Plan}

theorem isRouted_congr (alike : plan.Alike other) : plan.isRouted = other.isRouted := by
  rw [isRouted, isRouted, Options.routesOutcome, Options.routesOutcome, alike.onSuccess,
    alike.onFailure]

theorem alike_roles (accepted : plan.Accepted) (acceptedToo : other.Accepted)
    (alike : plan.Alike other) :
    List.Forall₂ SameEntry plan.classification.roles other.classification.roles := by
  have parameters := alike.parameters
  rw [← accepted.sorts.ordered, ← acceptedToo.sorts.ordered, List.map_map, List.map_map]
    at parameters
  have zipped := congrArg₂ List.zip parameters alike.roles
  rw [List.zip_map', List.zip_map'] at zipped
  exact (forall₂_of_map_eq zipped).imp fun _ _ same => Prod.mk.inj same

/-- The names and kinds of the fields that a parameter brings in, where an input is threaded through
some names. -/
def fieldShapes (threaded : List String) : Parameter × Role → List (String × Bool)
  | (parameter, .capturedField) => [(parameter.name, parameter.isKeywordOnly)]
  | (parameter, .pipedInput) => threaded.map (·, parameter.isKeywordOnly)
  | _ => []

/-- The names that the input of a plan is threaded through. -/
def threadedNames (plan : Plan) : List String :=
  (plan.classification.piped.map fun piped =>
    PipedInput.dropAt piped.entityIndex piped.names).getD []

theorem fieldShapes_eq (accepted : plan.Accepted) :
    plan.fields.map (fun field => (field.name, field.keywordOnly)) =
      plan.classification.roles.flatMap (fieldShapes plan.threadedNames) := by
  rw [fields, List.map_flatMap]
  refine List.flatMap_congr ?_
  rintro ⟨parameter, role⟩ isRole
  cases role with
  | pipedInput =>
    obtain ⟨piped, isPiped, rfl⟩ := (accepted.sorts.piped parameter).mp isRole
    have layout := (PipedInput.laidOut_of_parseInput (accepted.sorts.parsed piped isPiped)).1
    rw [isPiped, fieldsOf, fieldShapes, threadedNames, isPiped, Option.map_some, Option.getD_some,
      ← layout.names_threaded, List.map_map, List.map_map]
    rfl
  | _ => rfl

theorem alike_fields (accepted : plan.Accepted) (acceptedToo : other.Accepted)
    (alike : plan.Alike other) : List.Forall₂ SameField plan.fields other.fields := by
  have threaded : plan.threadedNames = other.threadedNames := by
    have input := alike.input
    rw [threadedNames, threadedNames]
    cases isPiped : plan.classification.piped <;>
      cases isPipedToo : other.classification.piped <;> simp_all
  have shapes : plan.fields.map (fun field => (field.name, field.keywordOnly)) =
      other.fields.map fun field => (field.name, field.keywordOnly) := by
    rw [fieldShapes_eq accepted, fieldShapes_eq acceptedToo, ← threaded, List.flatMap, List.flatMap]
    refine congrArg _ (map_eq_of_forall₂ (alike_roles accepted acceptedToo alike) ?_)
    rintro ⟨parameter, role⟩ ⟨parameterToo, roleToo⟩ ⟨same, rfl⟩
    simp only [Prod.mk.injEq] at same
    cases role <;> simp [fieldShapes, Parameter.isKeywordOnly, same.1, same.2.1]
  have zipped := congrArg₂ List.zip shapes alike.defaults
  rw [List.zip_map', List.zip_map'] at zipped
  refine (forall₂_of_map_eq zipped).imp fun field fieldToo same => ?_
  simp only [Prod.mk.injEq] at same
  exact ⟨same.1.1, same.1.2, same.2⟩

/-! ## Fields in code -/

section Fields

variable {fields others : List Field} (alike : List.Forall₂ SameField fields others)
include alike

theorem parameterList_congr (leading : List String) :
    parameterList fields leading = parameterList others leading := by
  have item : ∀ field other, SameField field other → field.item = other.item := by
    rintro field other ⟨name, -, default⟩
    rw [Field.item, Field.item, name, ← Option.isSome_map, default, Option.isSome_map]
  have positional := map_eq_of_forall₂ (forall₂_filter (p := (!·.keywordOnly))
    (q := (!·.keywordOnly)) alike fun _ _ same => by rw [same.keywordOnly]) item
  have named := map_eq_of_forall₂ (forall₂_filter (p := (·.keywordOnly)) (q := (·.keywordOnly))
    alike fun _ _ same => same.keywordOnly) item
  rw [parameterList, parameterList, positional, named, ← List.isEmpty_map, named, List.isEmpty_map]

theorem construct_congr : construct fields = construct others := by
  rw [construct, construct, map_eq_of_forall₂ alike fun _ _ same => by rw [same.name]]

theorem fieldStatements_congr : fields.map fieldStatement = others.map fieldStatement := by
  refine map_eq_of_forall₂ alike ?_
  rintro field other ⟨name, keywordOnly, default⟩
  have options : fieldOptions field = fieldOptions other := by
    rw [fieldOptions, fieldOptions, name, keywordOnly]
    congr 1
    cases isDefault : field.default <;> cases isDefaultToo : other.default <;>
      simp_all
  rw [fieldStatement, fieldStatement, options, name]

end Fields

/-! ## The call of the routine -/

section Calls

variable (accepted : plan.Accepted) (acceptedToo : other.Accepted) (alike : plan.Alike other)
  (reach : Reach)

theorem argument_congr {entry entryToo : Parameter × Role} (same : SameEntry entry entryToo) :
    argument reach entry = argument reach entryToo := by
  obtain ⟨parameter, role⟩ := entry
  obtain ⟨parameterToo, roleToo⟩ := entryToo
  obtain ⟨same, rfl⟩ := same
  simp only [Prod.mk.injEq] at same
  cases role <;> simp [argument, same.1]

theorem isKeywordOnly_congr {entry entryToo : Parameter × Role} (same : SameEntry entry entryToo) :
    entry.1.isKeywordOnly = entryToo.1.isKeywordOnly := by
  rw [Parameter.isKeywordOnly, Parameter.isKeywordOnly, (Prod.mk.inj (Prod.mk.inj same.1).2).1]

include accepted acceptedToo alike

theorem exclusiveCall_congr : plan.exclusiveCall reach = other.exclusiveCall reach := by
  have roles := alike_roles accepted acceptedToo alike
  rw [exclusiveCall, exclusiveCall]
  congr 1
  · refine map_eq_of_forall₂ (forall₂_filter roles fun _ _ same => ?_)
      fun _ _ same => argument_congr reach same
    rw [isKeywordOnly_congr same]
  · refine map_eq_of_forall₂ (forall₂_filter roles fun _ _ same => isKeywordOnly_congr same)
      fun _ _ same => ?_
    rw [argument_congr reach same, (Prod.mk.inj same.1).1]

theorem boundRoutine_congr : plan.boundRoutine reach = other.boundRoutine reach := by
  have keywords : plan.boundKeywords reach = other.boundKeywords reach := by
    refine map_eq_of_forall₂ (forall₂_filter (alike_roles accepted acceptedToo alike)
      fun _ _ same => by rw [same.2]) fun _ _ same => ?_
    rw [argument_congr reach same, (Prod.mk.inj same.1).1]
  rw [boundRoutine, boundRoutine, keywords]

omit accepted acceptedToo alike in
theorem element_congr {piped pipedToo : PipedInput}
    (same : piped.entityIndex = pipedToo.entityIndex) (start : Nat) (names : List String) :
    element piped reach start names = element pipedToo reach start names := by
  induction names generalizing start with
  | nil => rfl
  | cons name rest ih => rw [element, element, same, ih]

omit accepted acceptedToo alike in
theorem payload_congr {piped pipedToo : PipedInput} (names : piped.names = pipedToo.names)
    (shape : piped.shape = pipedToo.shape) (entity : piped.entityIndex = pipedToo.entityIndex) :
    payload piped reach = payload pipedToo reach := by
  rw [payload, payload, shape, names, element_congr reach entity]

theorem scheduledCall_congr : plan.scheduledCall reach = other.scheduledCall reach := by
  have input := alike.input
  rw [scheduledCall, scheduledCall, boundRoutine_congr accepted acceptedToo alike]
  cases isPiped : plan.classification.piped <;>
    cases isPipedToo : other.classification.piped <;>
    simp only [isPiped, isPipedToo, Option.map_some, Option.map_none, reduceCtorEq,
      Option.some.injEq, Prod.mk.injEq] at input
  · rfl
  · simp only [payload_congr reach input.1 input.2.1 input.2.2]

theorem bodyCall_congr : plan.bodyCall reach = other.bodyCall reach := by
  rw [bodyCall, bodyCall, alike.mode, exclusiveCall_congr accepted acceptedToo alike,
    scheduledCall_congr accepted acceptedToo alike]

end Calls

/-! ## The record -/

/-- The names of type parameters depend on how many there are. -/
theorem typeParameterNames_congr (start : Nat) {types others : List Value}
    (asMany : types.length = others.length) :
    (typeParameterUses start types).map Prod.fst =
      (typeParameterUses start others).map Prod.fst := by
  induction types generalizing start others with
  | nil =>
    obtain rfl := List.eq_nil_of_length_eq_zero asMany.symm
    rfl
  | cons type rest ih =>
    cases others with
    | nil => cases asMany
    | cons type rest =>
      rw [typeParameterUses, typeParameterUses, List.map_cons, List.map_cons,
        ih _ (Nat.succ.inj asMany)]

theorem recordBases_congr (alike : plan.Alike other) : plan.recordBases = other.recordBases := by
  have names := typeParameterNames_congr 0 alike.generics
  have uses : ∀ uses : List Use, uses.map (fun use => Code.Expr.name (reserved use.1)) =
      (uses.map Prod.fst).map fun name => Code.Expr.name (reserved name) := by simp
  simp only [recordBases, uses, names, ← List.isEmpty_map (f := Prod.fst)]

/-! ## The public routine -/

theorem declaredItems_congr {parameters others : List Parameter}
    (alike : List.Forall₂ (fun parameter other : Parameter =>
      (parameter.name, parameter.kind, parameter.default.isSome) =
        (other.name, other.kind, other.default.isSome)) parameters others) (starred : Bool) :
    declaredItems starred parameters = declaredItems starred others := by
  induction alike generalizing starred with
  | nil => rfl
  | @cons parameter parameterToo rest restToo same alike ih =>
    simp only [Prod.mk.injEq] at same
    have item : declaredItem parameter = declaredItem parameterToo := by
      rw [declaredItem, declaredItem, same.1, same.2.2]
    have next : rest.head?.any Parameter.isPositionalOnly =
        restToo.head?.any Parameter.isPositionalOnly := by
      cases alike with
      | nil => rfl
      | cons same _ =>
        simp only [Prod.mk.injEq] at same
        simp [Parameter.isPositionalOnly, same.2.1]
    have isNamed : parameter.isKeywordOnly = parameterToo.isKeywordOnly := by
      rw [Parameter.isKeywordOnly, Parameter.isKeywordOnly, same.2.1]
    have isUnnamed : parameter.isPositionalOnly = parameterToo.isPositionalOnly := by
      rw [Parameter.isPositionalOnly, Parameter.isPositionalOnly, same.2.1]
    simp only [declaredItems, item, next, ih, isNamed, isUnnamed]

/-- The only parameter of a role is the first one of it. -/
theorem name_of_role {roles : List (Parameter × Role)} {role : Role} {found : Option Parameter}
    (isOnly : ∀ parameter, (parameter, role) ∈ roles ↔ found = some parameter) :
    found.map Parameter.name = ((roles.map fun entry => (entry.1.name, entry.2)).find?
      (·.2 = role)).map Prod.fst := by
  rw [List.find?_map, Option.map_map]
  cases isFound : roles.find? ((fun entry : String × Role => decide (entry.2 = role)) ∘
      fun entry => (entry.1.name, entry.2)) with
  | none =>
    cases found with
    | none => rfl
    | some parameter =>
      have isThere := (isOnly parameter).mpr rfl
      simpa using List.find?_eq_none.mp isFound _ isThere
  | some entry =>
    obtain ⟨parameter, other⟩ := entry
    have isRole : other = role := by simpa using List.find?_some isFound
    subst isRole
    rw [(isOnly parameter).mp (List.mem_of_find?_eq_some isFound)]
    rfl

/-- Where the routine is called directly, the entity is a parameter of its own. -/
theorem entity_of_exclusive (accepted : plan.Accepted) (isExclusive : plan.mode = .exclusive)
    (parameter : Parameter) : (parameter, Role.entity) ∈ plan.classification.roles ↔
      plan.classification.entity = some parameter := by
  refine ⟨accepted.sorts.entity parameter, fun isEntity => ?_⟩
  rcases accepted.sorts.ofEntity parameter isEntity with isRole | ⟨piped, isPiped, -, -⟩
  · exact isRole
  · have isRole := (accepted.sorts.piped piped.parameter).mpr ⟨piped, isPiped, rfl⟩
    exact absurd rfl ((accepted.exclusive isExclusive).2 _ isRole).1

section Parts

variable (accepted : plan.Accepted) (acceptedToo : other.Accepted) (alike : plan.Alike other)
include accepted acceptedToo alike

theorem recordCode_congr : plan.recordCode = other.recordCode := by
  have statements := fieldStatements_congr (alike_fields accepted acceptedToo alike)
  have docs : plan.docStatements = other.docStatements := by
    rw [docStatements, docStatements, alike.doc]
  have bases := recordBases_congr alike
  have applied : plan.applyBody = other.applyBody := by
    simp only [applyBody, routed, isRouted_congr alike, alike.chainable,
      bodyCall_congr accepted acceptedToo alike]
  simp only [recordCode, recordBody, applyParameters, statements, docs, bases, applied,
    alike.recordName, alike.forEntity]

theorem extensionCode_congr : plan.extensionCode = other.extensionCode := by
  have fields := alike_fields accepted acceptedToo alike
  have parameters : plan.methodParameters = other.methodParameters :=
    parameterList_congr fields ["self"]
  have docs : plan.docStatements = other.docStatements := by
    rw [docStatements, docStatements, alike.doc]
  have implementations : plan.implementations = other.implementations := by
    simp only [implementations, queuedBody, directBody, chained, construct_congr fields,
      alike.chainable, alike.forEntity, alike.noDirect]
  have code : plan.implementationCode = other.implementationCode := by
    funext implementation
    rw [implementationCode, implementationCode, parameters]
  simp only [extensionCode, unsupportedBody, parameters, docs, implementations, code,
    alike.extensionName, alike.methodName]

/-- The names of the world and of the entity. -/
theorem receivers_congr (isExclusive : plan.mode = .exclusive) :
    plan.classification.context.map Parameter.name =
        other.classification.context.map Parameter.name ∧
      plan.classification.entity.map Parameter.name =
        other.classification.entity.map Parameter.name := by
  have roles := map_eq_of_forall₂ (f := fun entry : Parameter × Role => (entry.1.name, entry.2))
    (g := fun entry => (entry.1.name, entry.2)) (alike_roles accepted acceptedToo alike)
    fun _ _ same => Prod.ext (Prod.mk.inj same.1).1 same.2
  have isExclusiveToo : other.mode = .exclusive := alike.mode ▸ isExclusive
  constructor
  · rw [name_of_role accepted.sorts.context, name_of_role acceptedToo.sorts.context, roles]
  · rw [name_of_role (entity_of_exclusive accepted isExclusive),
      name_of_role (entity_of_exclusive acceptedToo isExclusiveToo), roles]

theorem routingCode_congr : plan.routingCode = other.routingCode := by
  have fields := alike_fields accepted acceptedToo alike
  have routes : plan.routeBody = other.routeBody := by
    rw [routeBody, routeBody, alike.onSuccess, alike.onFailure]
  have parameters : plan.routineParameters = other.routineParameters := by
    rw [routineParameters, routineParameters, alike.mode, alike.forEntity,
      declaredItems_congr (forall₂_of_map_eq alike.parameters), parameterList_congr fields]
  have body : plan.routineBody = other.routineBody := by
    cases isMode : plan.mode with
    | exclusive =>
      obtain ⟨context, entity⟩ := receivers_congr accepted acceptedToo alike isMode
      simp only [routineBody, isMode, ← alike.mode, context, entity,
        bodyCall_congr accepted acceptedToo alike]
    | scheduled =>
      simp only [routineBody, isMode, ← alike.mode, construct_congr fields, alike.forEntity]
  rw [routingCode, routingCode, routes, parameters, body]

/-- Definitions of one shape have one text. -/
theorem text_congr : plan.text = other.text := by
  rw [text, text, recordCode_congr accepted acceptedToo alike,
    routingCode_congr accepted acceptedToo alike, extensionCode_congr accepted acceptedToo alike,
    isRouted_congr alike, alike.noExtension]

end Parts

/-! ## What is generated -/

section Generations

variable {machine : Machine} {before after : Store} {generation : Generation}

theorem source_of_assemble {undecorated : Value} {shadow : Option Value} {fragments : Fragments}
    (runs : (assemble machine plan undecorated shadow fragments).run before =
      (.ok generation, after)) : generation.source = fragments.source := by
  simp only [assemble, bind_eq] at runs
  split at runs
  · rw [done_bind] at runs
    split at runs
    · cases runs
    · simp only [done_bind, run_bind_eq_ok, run_store_bind] at runs
      obtain ⟨_, _, _, _, _, _, _, _, _, _, _, _, _, _, _, ends⟩ := runs
      cases ends
      rfl
  · cases runs

/-- What is generated for a command keeps its text. -/
theorem source_of_generate (runs : (generate machine plan).run before = (.ok generation, after)) :
    generation.source = plan.text := by
  rw [generate, bind_eq, run_bind_eq_ok] at runs
  obtain ⟨routed, between, shadows, runs⟩ := runs
  obtain ⟨body, rfl⟩ := Code.eq_of_withShadow shadows
  split at runs
  · rename_i fragments makes
    rw [source_of_assemble runs, source_of_fragments makes]
    rfl
  · cases runs

end Generations

/-- A plan has a text: its fragments are made, they are put together to the text, and every
generation for the plan keeps this text. -/
structure HasText (plan : Plan) (text : String) : Prop where
  fragments : ∃ fragments, plan.fragments = .ok fragments ∧ fragments.source = text
  generation : ∀ machine before generation after,
    (generate machine plan).run before = (.ok generation, after) → generation.source = text

theorem hasText (accepted : plan.Accepted)
    (distinct : (plan.signature.parameters.map Parameter.name).Nodup) : plan.HasText plan.text where
  fragments := by
    obtain ⟨fragments, names, makes, -⟩ := exists_fragments (agree_uses accepted distinct)
    exact ⟨fragments, makes, source_of_fragments makes⟩
  generation _ _ _ _ runs := source_of_generate runs

/-- **The text of a command depends on the shape of its definition alone.**  Two definitions that
are accepted and of one shape have the same text, whatever else they differ in. -/
theorem text_of_alike {around aroundToo : Surroundings} {target targetToo : Target}
    {raw rawToo : Options.Raw} {forEntity forEntityToo : Bool} {body bodyToo : Value}
    (runs : build around target raw forEntity body = .ok plan)
    (runsToo : build aroundToo targetToo rawToo forEntityToo bodyToo = .ok other)
    (distinct : (plan.signature.parameters.map Parameter.name).Nodup) (alike : plan.Alike other) :
    ∃ text, plan.HasText text ∧ other.HasText text := by
  have accepted := (accepted_of_build runs).1
  have acceptedToo := (accepted_of_build runsToo).1
  have distinctToo : (other.signature.parameters.map Parameter.name).Nodup := by
    have names := congrArg (List.map Prod.fst) alike.parameters
    rw [List.map_map, List.map_map] at names
    exact names ▸ distinct
  exact ⟨plan.text, hasText accepted distinct,
    text_congr accepted acceptedToo alike ▸ hasText acceptedToo distinctToo⟩

/-! ## A sample -/

/-- A routine like `transfer` with other types and defaults. -/
def lendRoutine : Routine :=
  { transferRoutine with
    parameters := [⟨"order", .positional, some (.tuple [.ofText "rent", .ofInt 7] 0)⟩,
      ⟨"limit", .keywordOnly, none⟩]
    annotations := [("order", .annotated
        (.applied ClassId.input [.applied ClassId.tuple [.cls ClassId.object, .any] 0] 0)
        [.pattern [.ofText "amount", .ofText "late"] 0]),
      ("limit", .cls ClassId.bool)] }

/-- The types and the defaults of the two routines differ, and their commands have one text. -/
theorem text_of_alike_transfer :
    (plainPlan transferRoutine).fields.map (fun field => field.default.map Value.classId) ≠
        (plainPlan lendRoutine).fields.map (fun field => field.default.map Value.classId) ∧
      ∃ text, (plainPlan transferRoutine).HasText text ∧ (plainPlan lendRoutine).HasText text := by
  have facts : (plainBuild transferRoutine).isOk = true ∧ (plainBuild lendRoutine).isOk = true ∧
      ((plainPlan transferRoutine).signature.parameters.map Parameter.name).Nodup ∧
      (plainPlan transferRoutine).Alike (plainPlan lendRoutine) ∧
      (plainPlan transferRoutine).fields.map (fun field => field.default.map Value.classId) ≠
        (plainPlan lendRoutine).fields.map (fun field => field.default.map Value.classId) := by
    decide +kernel
  obtain ⟨isBuilt, isBuiltToo, distinct, alike, differ⟩ := facts
  exact ⟨differ, text_of_alike (plainBuild_eq isBuilt) (plainBuild_eq isBuiltToo) distinct alike⟩

end Plan

end Deferred
