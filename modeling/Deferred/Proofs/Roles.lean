import Deferred.Proofs.Bindings
import Deferred.Role.Classify
import Mathlib.Tactic.ByContra

/-!
# Parameters and their roles

A definition that is accepted has one role for each of its parameters, in the order of declaration.
What the classification remembers besides the roles, the context, the entity and the input, is what
has these roles.
-/

namespace Deferred.Classification

open Text

variable {nameOf? : Value → Option String} {signature : Signature} {host : Host} {forEntity : Bool}

/-- The annotation of a parameter is one that a role asks for. -/
def Suits (host : Host) (forEntity : Bool) (parameter : Parameter) : Role → Prop
  | .context => denotes host.world parameter.hint = true
  | .entity => forEntity = true ∧ denotes host.entity parameter.hint = true
  | .pipedInput => denotes host.input (parameter.hint.map Value.origin) = true
  | .systemParam =>
    denotes host.input (parameter.hint.map Value.origin) = false ∧
      denotes host.world parameter.hint = false ∧
      host.systemParams.any (denotes · (parameter.hint.map Value.origin)) = true
  | .capturedField => True

/-- A classification of some parameters. -/
structure Sorts (signature : Signature) (host : Host) (forEntity : Bool)
    (parameters : List Parameter) (sorted : Classification) : Prop where
  ordered : sorted.roles.map Prod.fst = parameters
  named : ∀ parameter ∈ parameters, parameter.name ≠ "self" ∧
    parameter.kind.isVariadic = false ∧ isReserved parameter.name = false
  suits : ∀ parameter role, (parameter, role) ∈ sorted.roles → Suits host forEntity parameter role
  context : ∀ parameter, (parameter, .context) ∈ sorted.roles ↔ sorted.context = some parameter
  entity : ∀ parameter, (parameter, .entity) ∈ sorted.roles → sorted.entity = some parameter
  ofEntity : ∀ parameter, sorted.entity = some parameter → (parameter, .entity) ∈ sorted.roles ∨
    ∃ piped, sorted.piped = some piped ∧ piped.parameter = parameter ∧ piped.entityIndex.isSome
  noEntity : ∀ parameter, (parameter, .entity) ∈ sorted.roles →
    ∀ piped, sorted.piped = some piped → piped.entityIndex = none
  carried : ∀ piped, sorted.piped = some piped → piped.entityIndex.isSome →
    sorted.entity = some piped.parameter
  piped : ∀ parameter, (parameter, .pipedInput) ∈ sorted.roles ↔
    ∃ piped, sorted.piped = some piped ∧ piped.parameter = parameter
  parsed : ∀ piped, sorted.piped = some piped →
    parseInput signature host forEntity piped.parameter = .ok piped

theorem checkName_eq_ok {parameter : Parameter} (runs : checkName parameter = .ok ()) :
    parameter.name ≠ "self" ∧ parameter.kind.isVariadic = false ∧
      isReserved parameter.name = false := by
  rw [checkName] at runs
  split at runs
  · cases runs
  · split at runs
    · cases runs
    · split at runs
      · cases runs
      · simp_all

/-! ## The input -/

/-- Names that an input binds: each once, none that another parameter goes by, and none that is kept
for the receiver or for generated code, unless the parameter itself goes by it. -/
structure BindsNames (signature : Signature) (parameter : Parameter) (names : List String) :
    Prop where
  apart : names.Nodup
  unshared : ∀ name ∈ names, ∀ other ∈ signature.parameters, other.name = name →
    other.name = parameter.name
  free : ∀ name ∈ names, name = parameter.name ∨ name ≠ "self" ∧ isReserved name = false

theorem nodup_of_repeats {names : List String} (single : repeats names = false) : names.Nodup := by
  induction names with
  | nil => exact List.nodup_nil
  | cons name rest ih =>
    simp only [repeats, Bool.or_eq_false_iff, List.contains_eq_mem, decide_eq_false_iff_not]
      at single
    exact List.nodup_cons.mpr ⟨single.1, ih single.2⟩

theorem isSome_foldl {α β : Type} {step : Option α → β → Option α}
    (gives : ∀ sofar item, (step sofar item).isSome) (items : List β) {sofar : Option α}
    (isSome : sofar.isSome) : (items.foldl step sofar).isSome := by
  induction items generalizing sofar with
  | nil => exact isSome
  | cons item rest ih => exact ih (gives sofar item)

theorem nil_of_least? {names : List String} (isNone : least? names = none) : names = [] := by
  cases names with
  | nil => rfl
  | cons name rest =>
    have isSome : (least? (name :: rest)).isSome := by
      rw [least?, List.foldl_cons]
      refine isSome_foldl ?_ rest rfl
      intro sofar item
      cases sofar with
      | none => rfl
      | some other =>
        simp only
        split <;> rfl
    rw [isNone] at isSome
    cases isSome

theorem bindsNames_of_inputNames {parameter : Parameter} {names : List String}
    (runs : inputNames signature parameter = .ok names) :
    BindsNames signature parameter names := by
  rw [inputNames] at runs
  split at runs
  · cases runs
    refine ⟨List.nodup_singleton _, ?_, ?_⟩
    · intro name isIn other _ same
      rw [List.mem_singleton.mp isIn] at same
      exact same
    · intro name isIn
      exact .inl (List.mem_singleton.mp isIn)
  · rename_i pattern _
    simp only at runs
    split at runs
    · cases runs
    · rename_i isPlain
      split at runs
      · cases runs
      · rename_i single
        split at runs
        · cases runs
        · rename_i unreserved
          split at runs
          · cases runs
          · rename_i unclashing
            cases runs
            simp only [Bool.or_eq_true, Bool.not_eq_true', not_or, Bool.not_eq_false,
              List.all_eq_true] at isPlain
            refine ⟨nodup_of_repeats (by simpa using single), ?_, ?_⟩
            · intro name isIn other isOther same
              by_contra apart
              have clashes : name ∈ (textsOf pattern).filter
                  ((signature.parameters.map Parameter.name).erase parameter.name).contains := by
                rw [List.mem_filter, List.contains_eq_mem, decide_eq_true_eq,
                  List.mem_erase_of_ne (same ▸ apart)]
                exact ⟨isIn, List.mem_map.mpr ⟨other, isOther, same⟩⟩
              rw [nil_of_least? unclashing] at clashes
              cases clashes
            · intro name isIn
              right
              refine ⟨?_, ?_⟩
              · rintro rfl
                obtain ⟨value, isValue, isText⟩ := List.mem_filterMap.mp isIn
                have isField := isPlain.2 value isValue
                split at isText
                · cases isText
                  simp [isFieldName] at isField
                · cases isText
              · simp only [List.any_eq_true, not_exists, not_and, Bool.not_eq_true] at unreserved
                exact unreserved name isIn

/-- What is known of an input that was read. -/
structure Reads (signature : Signature) (host : Host) (forEntity : Bool) (parameter : Parameter)
    (piped : PipedInput) : Prop where
  isParameter : piped.parameter = parameter
  names : BindsNames signature parameter piped.names
  shape : piped.shape =
    shapeOf (carriedTypes parameter.hint).2 piped.names.length piped.types.length
  balanced : piped.shape ≠ .packed → piped.names.length = piped.types.length
  entityIndex : piped.entityIndex =
    (if forEntity && piped.shape ≠ .packed then positions (Host.denotes host.entity) 0 piped.types
      else []).head?
  default : piped.shape = .elements → ∀ value, parameter.default = some value →
    isTupleOf piped.types.length value = true

theorem reads_of_parseInput {parameter : Parameter} {piped : PipedInput}
    (runs : parseInput signature host forEntity parameter = .ok piped) :
    Reads signature host forEntity parameter piped := by
  simp only [parseInput, bind, Except.bind, pure, Except.pure, throw, throwThe,
    MonadExceptOf.throw] at runs
  cases ofNames : inputNames signature parameter with
  | error error =>
    rw [ofNames] at runs
    cases runs
  | ok names =>
    have binds := bindsNames_of_inputNames ofNames
    simp only [ofNames] at runs
    split at runs
    · cases runs
    · rename_i balanced
      simp only [Bool.and_eq_true, decide_eq_true_eq, not_and, not_not] at balanced
      generalize entities : (if (forEntity && decide (shapeOf (carriedTypes parameter.hint).2
          names.length (carriedTypes parameter.hint).1.length ≠ .packed)) = true then
        positions (Host.denotes host.entity) 0 (carriedTypes parameter.hint).1 else []) = found
        at runs
      split at runs
      · cases runs
      · split at runs
        · rename_i isElements
          split at runs
          · rename_i value isDefault
            split at runs
            · cases runs
            · rename_i isTuple
              cases runs
              refine ⟨rfl, binds, rfl, balanced, by rw [entities], ?_⟩
              intro _ other isOther
              rw [isDefault] at isOther
              cases isOther
              simpa using isTuple
          · rename_i noDefault
            cases runs
            refine ⟨rfl, binds, rfl, balanced, by rw [entities], ?_⟩
            intro _ other isOther
            rw [noDefault] at isOther
            cases isOther
        · rename_i notElements
          cases runs
          exact ⟨rfl, binds, rfl, balanced, by rw [entities],
            fun isElements => absurd isElements notElements⟩

/-! ## Sorting -/

/-- What giving a parameter its role comes to. -/
inductive Places (signature : Signature) (host : Host) (forEntity : Bool)
    (sofar : Classification) (parameter : Parameter) : Classification → Prop where
  | input (piped : PipedInput) (isFirst : sofar.piped = none)
      (suits : Suits host forEntity parameter .pipedInput)
      (parsed : parseInput signature host forEntity parameter = .ok piped)
      (plain : piped.entityIndex = none) :
      Places signature host forEntity sofar parameter
        { sofar with piped := some piped, roles := sofar.roles ++ [(parameter, .pipedInput)] }
  | inputEntity (piped : PipedInput) (isFirst : sofar.piped = none) (free : sofar.entity = none)
      (suits : Suits host forEntity parameter .pipedInput)
      (parsed : parseInput signature host forEntity parameter = .ok piped)
      (carries : piped.entityIndex.isSome) :
      Places signature host forEntity sofar parameter
        { sofar with
          piped := some piped, entity := some parameter
          roles := sofar.roles ++ [(parameter, .pipedInput)] }
  | context (isFirst : sofar.context = none) (suits : Suits host forEntity parameter .context) :
      Places signature host forEntity sofar parameter
        { sofar with context := some parameter, roles := sofar.roles ++ [(parameter, .context)] }
  | entity (free : sofar.entity = none) (suits : Suits host forEntity parameter .entity) :
      Places signature host forEntity sofar parameter
        { sofar with entity := some parameter, roles := sofar.roles ++ [(parameter, .entity)] }
  | systemParam (suits : Suits host forEntity parameter .systemParam) :
      Places signature host forEntity sofar parameter
        { sofar with roles := sofar.roles ++ [(parameter, .systemParam)] }
  | capturedField :
      Places signature host forEntity sofar parameter
        { sofar with roles := sofar.roles ++ [(parameter, .capturedField)] }

theorem place_eq_ok {sofar placed : Classification} {parameter : Parameter}
    (runs : place nameOf? signature host forEntity sofar parameter = .ok placed) :
    checkName parameter = .ok () ∧ Places signature host forEntity sofar parameter placed := by
  simp only [place, bind, Except.bind, pure, Except.pure, throw, throwThe,
    MonadExceptOf.throw] at runs
  cases checked : checkName parameter with
  | error error =>
    rw [checked] at runs
    cases runs
  | ok _ =>
    rw [checked] at runs
    refine ⟨rfl, ?_⟩
    by_cases isInput : denotes host.input (parameter.hint.map Value.origin) = true
    · rw [if_pos isInput] at runs
      cases isFirst : sofar.piped with
      | some first =>
        rw [isFirst] at runs
        cases runs
      | none =>
        cases parsed : parseInput signature host forEntity parameter with
        | error error =>
          simp only [isFirst, parsed] at runs
          cases runs
        | ok piped =>
          simp only [isFirst, parsed] at runs
          by_cases carries : piped.entityIndex.isSome = true
          · rw [if_pos carries] at runs
            cases free : sofar.entity with
            | some first =>
              rw [free] at runs
              cases runs
            | none =>
              rw [free] at runs
              cases runs
              exact .inputEntity piped isFirst free isInput parsed carries
          · rw [if_neg carries] at runs
            cases runs
            exact .input piped isFirst isInput parsed (by simpa using carries)
    · cases unpatterned : parameter.pattern with
      | some pattern =>
        simp only [if_neg isInput, unpatterned] at runs
        cases runs
      | none =>
        simp only [if_neg isInput, unpatterned] at runs
        by_cases isWorld : denotes host.world parameter.hint = true
        · rw [if_pos isWorld] at runs
          cases isFirst : sofar.context with
          | some first =>
            rw [isFirst] at runs
            cases runs
          | none =>
            rw [isFirst] at runs
            cases runs
            exact .context isFirst isWorld
        · rw [if_neg isWorld] at runs
          by_cases isEntity : (forEntity && denotes host.entity parameter.hint) = true
          · rw [if_pos isEntity] at runs
            cases free : sofar.entity with
            | some first =>
              rw [free] at runs
              cases runs
            | none =>
              rw [free] at runs
              cases runs
              exact .entity free (by simpa [Suits] using isEntity)
          · rw [if_neg isEntity] at runs
            split at runs
            · rename_i isSystem
              cases runs
              exact .systemParam ⟨by simpa using isInput, by simpa using isWorld, isSystem⟩
            · split at runs
              · split at runs
                · cases runs
                · cases runs
                  exact .capturedField
              · cases runs
                exact .capturedField

theorem Sorts.empty : Sorts signature host forEntity []
    { roles := [], context := none, entity := none, piped := none } where
  ordered := rfl
  named _ isIn := by cases isIn
  suits _ _ isIn := by cases isIn
  context _ := by simp
  entity _ isIn := by cases isIn
  ofEntity _ isEntity := by cases isEntity
  noEntity _ isIn := by cases isIn
  carried _ isPiped := by cases isPiped
  piped _ := by simp
  parsed _ isPiped := by cases isPiped

section Places

variable {parameters : List Parameter} {sofar : Classification} {parameter other : Parameter}
  {role also : Role}

theorem mem_roles_concat {roles : List (Parameter × Role)} :
    (other, also) ∈ roles ++ [(parameter, role)] ↔
      (other, also) ∈ roles ∨ other = parameter ∧ also = role := by
  rw [List.mem_append, List.mem_singleton, Prod.mk.injEq]

theorem Sorts.named_concat (sorts : Sorts signature host forEntity parameters sofar)
    (checked : checkName parameter = .ok ()) :
    ∀ other ∈ parameters ++ [parameter], other.name ≠ "self" ∧
      other.kind.isVariadic = false ∧ isReserved other.name = false := by
  intro other isIn
  rcases List.mem_append.mp isIn with isOld | isNew
  · exact sorts.named other isOld
  · obtain rfl := List.mem_singleton.mp isNew
    exact checkName_eq_ok checked

theorem Sorts.suits_concat (sorts : Sorts signature host forEntity parameters sofar)
    (suits : Suits host forEntity parameter role) :
    ∀ other also, (other, also) ∈ sofar.roles ++ [(parameter, role)] →
      Suits host forEntity other also := by
  intro other also isIn
  rcases mem_roles_concat.mp isIn with isOld | ⟨rfl, rfl⟩
  · exact sorts.suits other also isOld
  · exact suits

/-- The first input is the one that is read. -/
theorem Sorts.piped_concat (sorts : Sorts signature host forEntity parameters sofar)
    (isFirst : sofar.piped = none) {found : PipedInput} (same : found.parameter = parameter) :
    ∀ other, (other, .pipedInput) ∈ sofar.roles ++ [(parameter, .pipedInput)] ↔
      ∃ piped, some found = some piped ∧ piped.parameter = other := by
  intro other
  rw [mem_roles_concat, sorts.piped, isFirst]
  constructor
  · rintro (⟨piped, isPiped, -⟩ | ⟨rfl, -⟩)
    · cases isPiped
    · exact ⟨found, rfl, same⟩
  · rintro ⟨piped, isPiped, rfl⟩
    cases isPiped
    exact .inr ⟨same, rfl⟩

/-- Before there is an entity, no parameter has its role. -/
theorem Sorts.notMem_entity (sorts : Sorts signature host forEntity parameters sofar)
    (free : sofar.entity = none) (other : Parameter) : (other, Role.entity) ∉ sofar.roles := by
  intro isIn
  rw [sorts.entity other isIn] at free
  cases free

/-- Before there is an entity, no input carries one. -/
theorem Sorts.entityIndex_eq_none (sorts : Sorts signature host forEntity parameters sofar)
    (free : sofar.entity = none) {piped : PipedInput} (isPiped : sofar.piped = some piped) :
    piped.entityIndex = none := by
  rw [Option.eq_none_iff_forall_ne_some]
  intro index carries
  rw [sorts.carried piped isPiped (by rw [carries]; rfl)] at free
  cases free

/-- A parameter that is neither the world, the entity nor the input changes nothing that is
remembered. -/
theorem Sorts.keep (sorts : Sorts signature host forEntity parameters sofar)
    (checked : checkName parameter = .ok ()) (suits : Suits host forEntity parameter role)
    (notContext : role ≠ .context) (notEntity : role ≠ .entity) (notInput : role ≠ .pipedInput) :
    Sorts signature host forEntity (parameters ++ [parameter])
      { sofar with roles := sofar.roles ++ [(parameter, role)] } where
  ordered := by simp [sorts.ordered]
  named := sorts.named_concat checked
  suits := sorts.suits_concat suits
  context := by simpa [mem_roles_concat, notContext.symm] using sorts.context
  entity := by simpa [mem_roles_concat, notEntity.symm] using sorts.entity
  ofEntity := by simpa [mem_roles_concat, notEntity.symm] using sorts.ofEntity
  noEntity := by simpa [mem_roles_concat, notEntity.symm] using sorts.noEntity
  carried := sorts.carried
  piped := by simpa [mem_roles_concat, notInput.symm] using sorts.piped
  parsed := sorts.parsed

/-- A classification with one more parameter is one of these parameters. -/
theorem Sorts.place {placed : Classification}
    (sorts : Sorts signature host forEntity parameters sofar)
    (checked : checkName parameter = .ok ())
    (places : Places signature host forEntity sofar parameter placed) :
    Sorts signature host forEntity (parameters ++ [parameter]) placed := by
  have named := sorts.named_concat checked
  cases places with
  | input found isFirst isInput isParsed plain =>
    have same := (reads_of_parseInput isParsed).isParameter
    refine ⟨by simp [sorts.ordered], named, sorts.suits_concat isInput,
      by simpa [mem_roles_concat] using sorts.context,
      by simpa [mem_roles_concat] using sorts.entity, ?ofEntity, ?noEntity, ?carried,
      sorts.piped_concat isFirst same, ?parsed⟩
    case ofEntity =>
      intro other isEntity
      rcases sorts.ofEntity other isEntity with isRole | ⟨piped, isPiped, -⟩
      · exact .inl (List.mem_append_left _ isRole)
      · rw [isFirst] at isPiped
        cases isPiped
    case noEntity =>
      rintro other - piped isPiped
      cases isPiped
      exact plain
    case carried =>
      intro piped isPiped carries
      cases isPiped
      rw [plain] at carries
      cases carries
    case parsed =>
      intro piped isPiped
      cases isPiped
      exact same ▸ isParsed
  | inputEntity found isFirst free isInput isParsed carries =>
    have same := (reads_of_parseInput isParsed).isParameter
    have noEntity := sorts.notMem_entity free
    refine ⟨by simp [sorts.ordered], named, sorts.suits_concat isInput,
      by simpa [mem_roles_concat] using sorts.context,
      by simp [noEntity], ?ofEntity,
      by simp [noEntity], ?carried, sorts.piped_concat isFirst same, ?parsed⟩
    case ofEntity =>
      intro other isEntity
      cases isEntity
      exact .inr ⟨found, rfl, same, carries⟩
    case carried =>
      intro piped isPiped _
      cases isPiped
      rw [same]
    case parsed =>
      intro piped isPiped
      cases isPiped
      exact same ▸ isParsed
  | context isFirst isContext =>
    have context : ∀ other, (other, .context) ∈ sofar.roles ++ [(parameter, .context)] ↔
        some parameter = some other := by
      intro other
      simp [sorts.context, isFirst, eq_comm]
    exact ⟨by simp [sorts.ordered], named, sorts.suits_concat isContext, context,
      by simpa [mem_roles_concat] using sorts.entity,
      by simpa [mem_roles_concat] using sorts.ofEntity,
      by simpa [mem_roles_concat] using sorts.noEntity, sorts.carried,
      by simpa [mem_roles_concat] using sorts.piped, sorts.parsed⟩
  | entity free isEntity =>
    have noEntity := sorts.notMem_entity free
    refine ⟨by simp [sorts.ordered], named, sorts.suits_concat isEntity,
      by simpa [mem_roles_concat] using sorts.context,
      by simp [noEntity], ?ofEntity, ?noEntity, ?carried,
      by simpa [mem_roles_concat] using sorts.piped, sorts.parsed⟩
    case ofEntity =>
      intro other isEntity
      cases isEntity
      exact .inl (List.mem_append_right _ (List.mem_singleton_self _))
    case noEntity => exact fun _ _ piped isPiped => sorts.entityIndex_eq_none free isPiped
    case carried =>
      intro piped isPiped carries
      rw [sorts.entityIndex_eq_none free isPiped] at carries
      cases carries
  | systemParam isSystem => exact sorts.keep checked isSystem (by decide) (by decide) (by decide)
  | capturedField => exact sorts.keep checked trivial (by decide) (by decide) (by decide)

end Places

theorem Sorts.placeAll {parameters rest : List Parameter} {sofar placed : Classification}
    (sorts : Sorts signature host forEntity parameters sofar)
    (runs : placeAll nameOf? signature host forEntity sofar rest = .ok placed) :
    Sorts signature host forEntity (parameters ++ rest) placed := by
  induction rest generalizing parameters sofar with
  | nil =>
    cases runs
    simpa using sorts
  | cons parameter rest ih =>
    rw [Classification.placeAll] at runs
    split at runs
    · cases runs
    · rename_i next isPlaced
      obtain ⟨checked, places⟩ := place_eq_ok isPlaced
      simpa using ih (sorts.place checked places) runs

/-- An accepted definition has its parameters sorted; no field hides what records have, and a
command of an entity has one. -/
theorem sorts_ofSignature {sorted : Classification}
    (runs : ofSignature nameOf? signature host forEntity = .ok sorted) :
    Sorts signature host forEntity signature.parameters sorted ∧
      (∀ name ∈ sorted.fieldNames, name ∉ recordAttributes) ∧
      (forEntity = true → sorted.entity.isSome) := by
  simp only [ofSignature, bind, Except.bind, pure, Except.pure, throw, throwThe,
    MonadExceptOf.throw] at runs
  split at runs
  · cases runs
  · rename_i placed isPlaced
    have sorts := Sorts.empty.placeAll isPlaced
    rw [List.nil_append] at sorts
    split at runs
    · cases runs
    · rename_i free
      split at runs
      · cases runs
      · rename_i hasEntity
        cases runs
        refine ⟨sorts, ?_, ?_⟩
        · intro name isField isAttribute
          have isFree : sorted.fieldNames.find? recordAttributes.contains = none := by
            cases found : sorted.fieldNames.find? recordAttributes.contains with
            | none => rfl
            | some name => exact absurd found (free name)
          have apart := List.find?_eq_none.mp isFree name isField
          simp [isAttribute] at apart
        · intro isEntity
          cases isThere : sorted.entity with
          | none => simp [isEntity, isThere] at hasEntity
          | some parameter => rfl

end Deferred.Classification
