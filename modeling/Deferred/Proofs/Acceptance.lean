import Deferred.Proofs.Legality
import Deferred.Proofs.RecordDeclaration

/-!
# Acceptance

A signature is accepted exactly when it is legal.  The rules are tried one parameter at a time, with
what was found so far beside them.  The tally of the parameters placed already is all that the next
one depends on, so a step accepts a parameter exactly when it is proper and the tally with it stays
within its bounds, and a run does so for all.
-/

namespace Deferred.Classification

open Text

variable {nameOf? : Value → Option String} {signature : Signature} {host : Host} {forEntity : Bool}
  {parameter : Parameter}

/-! ## Placing one parameter -/

/-- The classification with one more parameter. -/
def joined (host : Host) (forEntity : Bool) (sofar : Classification) (parameter : Parameter) :
    Classification :=
  let withRole (role : Role) : Classification :=
    { sofar with roles := sofar.roles ++ [(parameter, role)] }
  if asksInput host parameter then
    { withRole .pipedInput with
      piped := some (inputOf host forEntity parameter)
      entity := if (inputOf host forEntity parameter).entityIndex.isSome then some parameter
        else sofar.entity }
  else if asksWorld host parameter then { withRole .context with context := some parameter }
  else if forEntity && asksEntity host parameter then
    { withRole .entity with entity := some parameter }
  else if asksInjection host parameter then withRole .systemParam
  else withRole .capturedField

/-- What a parameter asks for is still to be had. -/
structure Fits (host : Host) (forEntity : Bool) (sofar : Classification) (parameter : Parameter) :
    Prop where
  input : asksInput host parameter = true → sofar.piped = none ∧
    (forEntity = true → entitiesWithin host parameter ≤ 1) ∧
      ((inputOf host forEntity parameter).entityIndex.isSome = true → sofar.entity = none)
  world : asksInput host parameter = false → asksWorld host parameter = true →
    sofar.context = none
  entity : asksInput host parameter = false → asksWorld host parameter = false →
    forEntity = true → asksEntity host parameter = true → sofar.entity = none

theorem checkName_iff : checkName parameter = .ok () ↔
    parameter.name ≠ "self" ∧ parameter.kind.isVariadic = false ∧
      isReserved parameter.name = false := by
  refine ⟨checkName_eq_ok, fun ⟨apart, single, unreserved⟩ => ?_⟩
  simp [checkName, apart, single, unreserved]

/-- An annotation goes by the name of a marker exactly if a marker is found for it. -/
theorem isSome_foreignMarker? {hint : Option Value} : (foreignMarker? nameOf? hint).isSome ↔
    ∃ type name, hint = some type ∧ nameOf? type.origin = some name ∧
      name ∈ ["World", "Entity", "In"] := by
  cases hint with
  | none => simp [foreignMarker?]
  | some type =>
    cases named : nameOf? type.origin with
    | none => simp [foreignMarker?, named]
    | some name => simp [foreignMarker?, named, Host.handleMarkers, List.contains_eq_mem]

/-- An input is placed exactly if it is proper and the only one that asks for what it asks for. -/
theorem place_input {sofar placed : Classification} (asks : asksInput host parameter = true)
    (checked : checkName parameter = .ok ()) :
    place nameOf? signature host forEntity sofar parameter = .ok placed ↔
      joined host forEntity sofar parameter = placed ∧
        Proper nameOf? host (namesBeside signature parameter) parameter ∧
          Fits host forEntity sofar parameter := by
  have isInput : denotes host.input (parameter.hint.map Value.origin) = true := asks
  simp only [place, bind, Except.bind, pure, Except.pure, throw, throwThe, MonadExceptOf.throw,
    checked, isInput, if_true]
  cases isFirst : sofar.piped with
  | some first =>
    simp only [reduceCtorEq, false_iff, not_and]
    intro _ _ fits
    rw [(fits.input asks).1] at isFirst
    cases isFirst
  | none =>
    cases parsed : parseInput signature host forEntity parameter with
    | error error =>
      simp only [reduceCtorEq, false_iff, not_and]
      intro _ proper fits
      rw [parseInput_eq_ok.mpr ⟨rfl, proper.input asks, (fits.input asks).2.1⟩] at parsed
      cases parsed
    | ok piped =>
      obtain ⟨rfl, legal, single⟩ := parseInput_eq_ok.mp parsed
      have proper : Proper nameOf? host (namesBeside signature parameter) parameter :=
        ⟨checkName_iff.mp checked, fun _ => legal, by simp [asks], fun alike => by
          simp [alike.2.2.2.1] at asks⟩
      have fits_iff : Fits host forEntity sofar parameter ↔
          ((inputOf host forEntity parameter).entityIndex.isSome = true → sofar.entity = none) :=
        ⟨fun fits => (fits.input asks).2.2, fun free => ⟨fun _ => ⟨isFirst, single, free⟩,
          by simp [asks], by simp [asks]⟩⟩
      simp only [proper, fits_iff, joined, asks, true_and, if_true]
      cases carries : (inputOf host forEntity parameter).entityIndex.isSome with
      | true => cases sofar.entity <;> simp
      | false => simp

/-- A parameter that is no input is placed exactly if it is proper and the only one that asks for
what it asks for. -/
theorem place_other {sofar placed : Classification} (asks : asksInput host parameter = false)
    (checked : checkName parameter = .ok ()) :
    place nameOf? signature host forEntity sofar parameter = .ok placed ↔
      joined host forEntity sofar parameter = placed ∧
        Proper nameOf? host (namesBeside signature parameter) parameter ∧
          Fits host forEntity sofar parameter := by
  have notInput : denotes host.input (parameter.hint.map Value.origin) = false := asks
  simp only [place, bind, Except.bind, pure, Except.pure, throw, throwThe, MonadExceptOf.throw,
    checked, notInput, Bool.false_eq_true, if_false]
  cases unpatterned : parameter.pattern with
  | some pattern =>
    simp only [reduceCtorEq, false_iff, not_and]
    intro _ proper
    rw [proper.unpatterned asks] at unpatterned
    cases unpatterned
  | none =>
    have proper_iff : Proper nameOf? host (namesBeside signature parameter) parameter ↔
        ¬ LooksAlike nameOf? host parameter :=
      ⟨fun proper => proper.recognized, fun recognized => ⟨checkName_iff.mp checked,
        by simp [asks], fun _ => unpatterned, recognized⟩⟩
    have fits_iff : Fits host forEntity sofar parameter ↔
        (asksWorld host parameter = true → sofar.context = none) ∧
          (asksWorld host parameter = false → forEntity = true →
            asksEntity host parameter = true → sofar.entity = none) :=
      ⟨fun fits => ⟨fits.world asks, fits.entity asks⟩, fun free =>
        ⟨by simp [asks], fun _ => free.1, fun _ => free.2⟩⟩
    have alike_iff : LooksAlike nameOf? host parameter ↔
        (foreignMarker? nameOf? parameter.hint).isSome ∧ asksWorld host parameter = false ∧
          asksEntity host parameter = false ∧ asksInjection host parameter = false := by
      rw [isSome_foreignMarker?]
      simp [LooksAlike, asks]
    simp only [proper_iff, fits_iff, alike_iff, joined, asks, Bool.false_eq_true, if_false]
    change (if asksWorld host parameter = true then _ else
      if (forEntity && asksEntity host parameter) = true then _ else
      if asksInjection host parameter = true then _ else
      if (!asksEntity host parameter) = true then _ else _) = _ ↔ _
    cases isWorld : asksWorld host parameter with
    | true => cases sofar.context <;> simp
    | false =>
      cases isEntity : asksEntity host parameter with
      | true =>
        cases forEntity with
        | true => cases sofar.entity <;> simp
        | false => cases asksInjection host parameter <;> simp
      | false =>
        cases asksInjection host parameter with
        | true => simp
        | false => cases foreignMarker? nameOf? parameter.hint <;> simp

/-- A parameter is placed exactly if it is proper and what it asks for is still to be had. -/
theorem place_iff {sofar placed : Classification} :
    place nameOf? signature host forEntity sofar parameter = .ok placed ↔
      joined host forEntity sofar parameter = placed ∧
        Proper nameOf? host (namesBeside signature parameter) parameter ∧
          Fits host forEntity sofar parameter := by
  cases checked : checkName parameter with
  | error error =>
    simp only [place, checked, bind, Except.bind, reduceCtorEq, false_iff, not_and]
    intro _ proper
    rw [checkName_iff.mpr proper.plain] at checked
    cases checked
  | ok _ =>
    cases asks : asksInput host parameter with
    | true => exact place_input asks checked
    | false => exact place_other asks checked

/-! ## What was placed already -/

/-- What a classification remembers of the parameters placed so far: whether the world, the input
and the entity were asked for, and the fields. -/
structure Tally (host : Host) (forEntity : Bool) (parameters : List Parameter)
    (sofar : Classification) : Prop where
  worlds : parameters.countP (asksWorld host) = sofar.context.isSome.toNat
  inputs : parameters.countP (asksInput host) = sofar.piped.isSome.toNat
  entities : forEntity = true →
    (parameters.map (entitiesOf host)).sum = sofar.entity.isSome.toNat
  fields : ∀ name, name ∈ sofar.fieldNames ↔
    ∃ parameter ∈ parameters, name ∈ fieldsOf host forEntity parameter

/-- Nothing is asked for twice. -/
structure Bounded (host : Host) (forEntity : Bool) (parameters : List Parameter) : Prop where
  worlds : parameters.countP (asksWorld host) ≤ 1
  inputs : parameters.countP (asksInput host) ≤ 1
  entities : forEntity = true → (parameters.map (entitiesOf host)).sum ≤ 1

theorem Bounded.of_append {before after : List Parameter}
    (bounded : Bounded host forEntity (before ++ after)) : Bounded host forEntity before where
  worlds := Nat.le_trans (List.countP_append .. ▸ Nat.le_add_right ..) bounded.worlds
  inputs := Nat.le_trans (List.countP_append .. ▸ Nat.le_add_right ..) bounded.inputs
  entities isEntity := by
    have single := bounded.entities isEntity
    rw [List.map_append, List.sum_append] at single
    omega

theorem Tally.empty : Tally host forEntity []
    { roles := [], context := none, entity := none, piped := none } where
  worlds := rfl
  inputs := rfl
  entities _ := rfl
  fields := by simp [fieldNames, ofRole]

theorem denotes_cls {id : ClassId} {hint : Option Value} :
    denotes (.cls id) hint = true ↔ hint = some (.cls id) := by
  cases hint with
  | none => simp [denotes]
  | some type =>
    cases type with
    | cls other => simpa [denotes, Host.denotes, Value.same] using eq_comm
    | _ => simp [denotes, Host.denotes, Value.same]

/-- The world is neither the input nor the entity. -/
theorem HasMarkers.of_asksWorld {worldId entityId inputId : ClassId}
    (markers : HasMarkers host worldId entityId inputId) (asks : asksWorld host parameter = true) :
    asksInput host parameter = false ∧ asksEntity host parameter = false := by
  rw [asksWorld, markers.world, denotes_cls] at asks
  have apart := markers.apart
  constructor
  · rw [Bool.eq_false_iff]
    intro isInput
    rw [asksInput, markers.input, denotes_cls, asks] at isInput
    simp_all [Value.origin]
  · rw [Bool.eq_false_iff]
    intro isEntity
    rw [asksEntity, markers.entity, denotes_cls, asks] at isEntity
    simp_all

/-- The entity is not the input. -/
theorem HasMarkers.of_asksEntity {worldId entityId inputId : ClassId}
    (markers : HasMarkers host worldId entityId inputId) (asks : asksEntity host parameter = true) :
    asksInput host parameter = false := by
  rw [asksEntity, markers.entity, denotes_cls] at asks
  rw [Bool.eq_false_iff]
  intro isInput
  rw [asksInput, markers.input, denotes_cls, asks] at isInput
  have apart := markers.apart
  simp_all [Value.origin]

/-- An input carries the entity of the command exactly if there is one among its types. -/
theorem carries_iff : (inputOf host forEntity parameter).entityIndex.isSome = true ↔
    forEntity = true ∧ entitiesWithin host parameter ≠ 0 := by
  have length : (entitiesIn host forEntity parameter).length =
      if forEntity then entitiesWithin host parameter else 0 := by
    unfold entitiesIn entitiesWithin
    cases forEntity <;> cases isPacked parameter <;> simp [length_positions]
  have isSome : (entitiesIn host forEntity parameter).head?.isSome = true ↔
      (entitiesIn host forEntity parameter).length ≠ 0 := by
    cases entitiesIn host forEntity parameter <;> simp
  rw [inputOf, isSome, length]
  cases forEntity <;> simp

/-- Nothing is asked for twice with one more parameter exactly if what it asks for is still to be
had. -/
theorem Tally.bounded_iff {before : List Parameter} {sofar : Classification}
    (tally : Tally host forEntity before sofar) :
    Bounded host forEntity (before ++ [parameter]) ↔
      (asksWorld host parameter = true → sofar.context = none) ∧
        (asksInput host parameter = true → sofar.piped = none) ∧
          (forEntity = true → entitiesOf host parameter ≤ 1 ∧
            (entitiesOf host parameter ≠ 0 → sofar.entity = none)) := by
  have worlds : (before ++ [parameter]).countP (asksWorld host) ≤ 1 ↔
      (asksWorld host parameter = true → sofar.context = none) := by
    rw [List.countP_append, tally.worlds]
    cases sofar.context <;> cases asks : asksWorld host parameter <;> simp [asks]
  have inputs : (before ++ [parameter]).countP (asksInput host) ≤ 1 ↔
      (asksInput host parameter = true → sofar.piped = none) := by
    rw [List.countP_append, tally.inputs]
    cases sofar.piped <;> cases asks : asksInput host parameter <;> simp [asks]
  have entities : (forEntity = true →
      ((before ++ [parameter]).map (entitiesOf host)).sum ≤ 1) ↔
        (forEntity = true → entitiesOf host parameter ≤ 1 ∧
          (entitiesOf host parameter ≠ 0 → sofar.entity = none)) := by
    refine imp_congr_right fun isEntity => ?_
    rw [List.map_append, List.sum_append, tally.entities isEntity]
    cases sofar.entity with
    | none => simp
    | some taken =>
      simp only [Option.isSome_some, Bool.toNat_true, List.map_cons, List.map_nil, List.sum_cons,
        List.sum_nil, reduceCtorEq, imp_false]
      omega
  rw [← worlds, ← inputs, ← entities]
  exact ⟨fun bounded => ⟨bounded.worlds, bounded.inputs, bounded.entities⟩,
    fun ⟨worlds, inputs, entities⟩ => ⟨worlds, inputs, entities⟩⟩

/-- An input is not the world. -/
theorem HasMarkers.of_asksInput {worldId entityId inputId : ClassId}
    (markers : HasMarkers host worldId entityId inputId) (asks : asksInput host parameter = true) :
    asksWorld host parameter = false := by
  rw [Bool.eq_false_iff]
  intro isWorld
  simp [(markers.of_asksWorld isWorld).1] at asks

/-- A parameter fits what was placed before it exactly if nothing is asked for twice then. -/
theorem Tally.fits_iff {worldId entityId inputId : ClassId} {before : List Parameter}
    {sofar : Classification} (markers : HasMarkers host worldId entityId inputId)
    (tally : Tally host forEntity before sofar) :
    Fits host forEntity sofar parameter ↔ Bounded host forEntity (before ++ [parameter]) := by
  rw [tally.bounded_iff]
  cases asks : asksInput host parameter with
  | true =>
    have notWorld := markers.of_asksInput asks
    have brings : entitiesOf host parameter = entitiesWithin host parameter := by
      simp [entitiesOf, asks]
    rw [notWorld, brings]
    constructor
    · intro fits
      obtain ⟨first, single, free⟩ := fits.input asks
      exact ⟨by simp, fun _ => first, fun isEntity => ⟨single isEntity, fun some =>
        free (carries_iff.mpr ⟨isEntity, some⟩)⟩⟩
    · rintro ⟨-, first, entity⟩
      refine ⟨fun _ => ⟨first rfl, fun isEntity => (entity isEntity).1, fun carries => ?_⟩,
        by simp [asks], by simp [asks]⟩
      obtain ⟨isEntity, some⟩ := carries_iff.mp carries
      exact (entity isEntity).2 some
  | false =>
    have brings : entitiesOf host parameter = if asksEntity host parameter then 1 else 0 := by
      simp [entitiesOf, asks]
    rw [brings]
    constructor
    · intro fits
      refine ⟨fits.world asks, by simp, fun isEntity => ⟨by split <;> omega, fun some => ?_⟩⟩
      have asksIt : asksEntity host parameter = true := by simpa using some
      have notWorld : asksWorld host parameter = false := by
        rw [Bool.eq_false_iff]
        intro isWorld
        simp [(markers.of_asksWorld isWorld).2] at asksIt
      exact fits.entity asks notWorld isEntity asksIt
    · rintro ⟨world, -, entity⟩
      exact ⟨by simp [asks], fun _ => world, fun _ _ isEntity asksIt =>
        (entity isEntity).2 (by simp [asksIt])⟩

/-- The fields of a classification with one more parameter. -/
theorem mem_fieldNames_joined {sofar : Classification} {name : String}
    (proper : Proper nameOf? host (namesBeside signature parameter) parameter)
    (fits : Fits host forEntity sofar parameter) :
    name ∈ (joined host forEntity sofar parameter).fieldNames ↔
      name ∈ sofar.fieldNames ∨ name ∈ fieldsOf host forEntity parameter := by
  cases asks : asksInput host parameter with
  | true =>
    obtain ⟨first, single, -⟩ := fits.input asks
    rw [← names_threaded asks (proper.input asks) single]
    simp [joined, fieldNames, ofRole, asks, first]
  | false =>
    unfold joined fieldsOf
    simp only [asks, Bool.false_eq_true, if_false]
    cases isWorld : asksWorld host parameter with
    | true => simp [fieldNames, ofRole]
    | false =>
      cases isEntity : (forEntity && asksEntity host parameter) with
      | true => simp [fieldNames, ofRole]
      | false =>
        cases asksInjection host parameter with
        | true => simp [fieldNames, ofRole]
        | false => simp [fieldNames, ofRole]; grind

/-- The tally of one more parameter. -/
theorem Tally.joined {worldId entityId inputId : ClassId} {before : List Parameter}
    {sofar : Classification} (markers : HasMarkers host worldId entityId inputId)
    (tally : Tally host forEntity before sofar)
    (proper : Proper nameOf? host (namesBeside signature parameter) parameter)
    (fits : Fits host forEntity sofar parameter) :
    Tally host forEntity (before ++ [parameter]) (joined host forEntity sofar parameter) := by
  obtain ⟨worldFree, inputFree, entityFree⟩ :=
    tally.bounded_iff.mp ((tally.fits_iff markers).mp fits)
  refine ⟨?_, ?_, ?_, ?_⟩
  · rw [List.countP_append, tally.worlds]
    cases asks : asksInput host parameter with
    | true => simp [Classification.joined, asks, markers.of_asksInput asks]
    | false =>
      cases isWorld : asksWorld host parameter with
      | true => simp [Classification.joined, asks, isWorld, worldFree isWorld]
      | false =>
        simp only [Classification.joined, asks, isWorld]
        cases forEntity && asksEntity host parameter <;>
          cases asksInjection host parameter <;> simp [isWorld]
  · rw [List.countP_append, tally.inputs]
    cases asks : asksInput host parameter with
    | true => simp [Classification.joined, asks, inputFree asks]
    | false =>
      simp only [Classification.joined, asks]
      cases asksWorld host parameter <;> cases forEntity && asksEntity host parameter <;>
        cases asksInjection host parameter <;> simp [asks]
  · intro isEntity
    subst isEntity
    obtain ⟨single, free⟩ := entityFree rfl
    rw [List.map_append, List.sum_append, tally.entities rfl]
    cases asks : asksInput host parameter with
    | true =>
      have brings : entitiesOf host parameter = entitiesWithin host parameter := by
        simp [entitiesOf, asks]
      have carried : (inputOf host true parameter).entityIndex.isSome = true ↔
          entitiesOf host parameter ≠ 0 := by
        simp [carries_iff, brings]
      by_cases some : entitiesOf host parameter = 0
      · have notCarried : (inputOf host true parameter).entityIndex.isSome = false := by
          rw [Bool.eq_false_iff]
          exact fun carries => carried.mp carries some
        simp [Classification.joined, asks, notCarried, some]
      · have one : entitiesOf host parameter = 1 := by omega
        simp [Classification.joined, asks, carried.mpr some, free some, one]
    | false =>
      have brings : entitiesOf host parameter = if asksEntity host parameter then 1 else 0 := by
        simp [entitiesOf, asks]
      cases isWorld : asksWorld host parameter with
      | true =>
        simp [Classification.joined, asks, isWorld, brings, (markers.of_asksWorld isWorld).2]
      | false =>
        cases isEntity : asksEntity host parameter with
        | true =>
          have isFree := free (by simp [brings, isEntity])
          simp [Classification.joined, asks, isWorld, isEntity, brings, isFree]
        | false =>
          have none : entitiesOf host parameter = 0 := by simp [brings, isEntity]
          simp only [Classification.joined, asks, isWorld, isEntity]
          cases asksInjection host parameter <;> simp [none]
  · intro name
    rw [mem_fieldNames_joined proper fits, tally.fields]
    simp only [List.mem_append, List.mem_singleton, or_and_right, exists_or, exists_eq_left]

/-- The parameters of a run that succeeds are tallied. -/
theorem Tally.placeAll {worldId entityId inputId : ClassId} {before rest : List Parameter}
    {sofar placed : Classification} (markers : HasMarkers host worldId entityId inputId)
    (tally : Tally host forEntity before sofar)
    (runs : placeAll nameOf? signature host forEntity sofar rest = .ok placed) :
    Tally host forEntity (before ++ rest) placed := by
  induction rest generalizing before sofar with
  | nil =>
    cases runs
    simpa using tally
  | cons parameter rest ih =>
    rw [Classification.placeAll] at runs
    split at runs
    · cases runs
    · rename_i next isPlaced
      obtain ⟨rfl, proper, fits⟩ := place_iff.mp isPlaced
      simpa using ih (tally.joined markers proper fits) runs

/-- Parameters are placed in turn exactly if each is proper and nothing is asked for twice. -/
theorem Tally.placeAll_iff {worldId entityId inputId : ClassId} {before rest : List Parameter}
    {sofar : Classification} (markers : HasMarkers host worldId entityId inputId)
    (tally : Tally host forEntity before sofar) :
    (∃ placed, Classification.placeAll nameOf? signature host forEntity sofar rest = .ok placed) ↔
      (∀ parameter ∈ rest, Proper nameOf? host (namesBeside signature parameter) parameter) ∧
        Bounded host forEntity (before ++ rest) := by
  induction rest generalizing before sofar with
  | nil =>
    have bounded : Bounded host forEntity before :=
      ⟨by simp [tally.worlds, Bool.toNat_le], by simp [tally.inputs, Bool.toNat_le],
        fun isEntity => by simp [tally.entities isEntity, Bool.toNat_le]⟩
    simp [Classification.placeAll, bounded]
  | cons parameter rest ih =>
    have again : before ++ parameter :: rest = before ++ [parameter] ++ rest := by simp
    constructor
    · rintro ⟨placed, runs⟩
      rw [Classification.placeAll] at runs
      split at runs
      · cases runs
      · rename_i next isPlaced
        obtain ⟨rfl, proper, fits⟩ := place_iff.mp isPlaced
        obtain ⟨others, bounded⟩ := (ih (tally.joined markers proper fits)).mp ⟨placed, runs⟩
        rw [again]
        exact ⟨List.forall_mem_cons.mpr ⟨proper, others⟩, bounded⟩
    · rintro ⟨allProper, bounded⟩
      obtain ⟨proper, others⟩ := List.forall_mem_cons.mp allProper
      rw [again] at bounded
      have fits := (tally.fits_iff markers).mpr bounded.of_append
      obtain ⟨placed, runs⟩ :=
        (ih (tally.joined markers proper fits)).mpr ⟨others, bounded⟩
      refine ⟨placed, ?_⟩
      rw [Classification.placeAll, place_iff.mpr ⟨rfl, proper, fits⟩]
      exact runs

/-! ## Acceptance -/

/-- A signature is accepted exactly if its parameters are placed, no field hides what records have,
and a command of an entity has got one. -/
theorem ofSignature_iff {sorted : Classification} :
    ofSignature nameOf? signature host forEntity = .ok sorted ↔
      placeAll nameOf? signature host forEntity
          { roles := [], context := none, entity := none, piped := none } signature.parameters =
            .ok sorted ∧
        (∀ name ∈ sorted.fieldNames, name ∉ recordAttributes) ∧
          (forEntity = true → sorted.entity.isSome = true) := by
  simp only [ofSignature, bind, Except.bind, pure, Except.pure, throw, throwThe,
    MonadExceptOf.throw]
  cases placeAll nameOf? signature host forEntity
      { roles := [], context := none, entity := none, piped := none } signature.parameters with
  | error failure => simp
  | ok placed =>
    simp only [Except.ok.injEq]
    cases hidden : placed.fieldNames.find? recordAttributes.contains with
    | some name =>
      have isField := List.mem_of_find?_eq_some hidden
      have isAttribute := List.find?_some hidden
      simp only [reduceCtorEq, false_iff, not_and]
      rintro rfl unhidden
      exact absurd (by simpa using isAttribute) (unhidden name isField)
    | none =>
      have unhidden : ∀ name ∈ placed.fieldNames, name ∉ recordAttributes := by
        intro name isField
        simpa using List.find?_eq_none.mp hidden name isField
      cases missing : forEntity && placed.entity.isNone with
      | true =>
        simp only [Bool.and_eq_true, Option.isNone_iff_eq_none] at missing
        simp only [if_true, reduceCtorEq, false_iff, not_and]
        rintro rfl _ hasEntity
        simp [missing.2, missing.1] at hasEntity
      | false =>
        have hasEntity : forEntity = true → placed.entity.isSome = true := by
          intro isEntity
          rw [isEntity, Bool.true_and] at missing
          cases isThere : placed.entity <;> simp_all
        simp only [Bool.false_eq_true, if_false, Except.ok.injEq]
        exact ⟨fun same => same ▸ ⟨rfl, unhidden, hasEntity⟩, And.left⟩

/-- **Exactly the legal signatures are accepted.**  A signature can be made a command, of an entity
or of none, if and only if it is legal. -/
theorem accepts_iff_legal {worldId entityId inputId : ClassId}
    (markers : HasMarkers host worldId entityId inputId) :
    (∃ sorted, ofSignature nameOf? signature host forEntity = .ok sorted) ↔
      Legal nameOf? signature host forEntity := by
  constructor
  · rintro ⟨sorted, runs⟩
    obtain ⟨placed, unhidden, hasEntity⟩ := ofSignature_iff.mp runs
    have tally := Tally.empty.placeAll markers placed
    obtain ⟨proper, bounded⟩ := (Tally.empty.placeAll_iff markers).mp ⟨sorted, placed⟩
    rw [List.nil_append] at tally bounded
    refine ⟨proper, bounded.worlds, bounded.inputs, ?_, ?_⟩
    · intro isEntity
      rw [tally.entities isEntity, hasEntity isEntity]
      rfl
    · intro parameter isIn name isField
      simpa [recordAttributes] using
        unhidden name ((tally.fields name).mpr ⟨parameter, isIn, isField⟩)
  · intro legal
    have bounded : Bounded host forEntity ([] ++ signature.parameters) :=
      ⟨legal.oneWorld, legal.oneInput, fun isEntity => Nat.le_of_eq (legal.oneEntity isEntity)⟩
    obtain ⟨sorted, placed⟩ := (Tally.empty.placeAll_iff markers).mpr ⟨legal.proper, bounded⟩
    have tally := Tally.empty.placeAll markers placed
    rw [List.nil_append] at tally
    refine ⟨sorted, ofSignature_iff.mpr ⟨placed, ?_, ?_⟩⟩
    · intro name isField
      obtain ⟨parameter, isIn, brings⟩ := (tally.fields name).mp isField
      simpa [recordAttributes] using legal.unhidden parameter isIn name brings
    · intro isEntity
      have one := tally.entities isEntity
      rw [legal.oneEntity isEntity] at one
      cases entity : sorted.entity with
      | none => simp [entity] at one
      | some parameter => rfl

/-! ## A sample -/

/-- The markers of the reference host are three classes. -/
theorem hasMarkers_reference (root : String) :
    HasMarkers (Host.reference root) ClassId.world ClassId.entity ClassId.input :=
  ⟨rfl, rfl, rfl, by decide⟩

/-- A signature of some parameters that can be given in any way. -/
def signatureOf (parameters : List (String × Value × Option (List Value))) : Signature where
  name := "transfer"
  qualname := "transfer"
  home := "game_mod"
  parameters := parameters.map fun (name, hint, pattern) =>
    { name, hint := some hint, kind := .positional, default := none, pattern }
  spans := { file := "game/mod.py", line := 1 }
  generics := []
  chainable := false
  outcome := none
  doc := none

/-- An input that a pattern takes apart into an entity and a whole number. -/
def payerAndAmount : String × Value × Option (List Value) :=
  ("order", .applied ClassId.input
    [.applied ClassId.tuple [.cls ClassId.entity, .cls ClassId.int] 0] 0,
    some [.ofText "payer", .ofText "amount"])

/-- The entity of a command can come with the input; then no parameter can ask for it as well. -/
theorem accepts_iff_legal_transfer :
    Legal (fun _ => none) (signatureOf [payerAndAmount, ("limit", .cls ClassId.int, none)])
        (Host.reference "commandify.prelude") true ∧
      ¬ Legal (fun _ => none)
        (signatureOf [payerAndAmount, ("payee", .cls ClassId.entity, none)])
        (Host.reference "commandify.prelude") true := by
  constructor
  · exact (accepts_iff_legal (hasMarkers_reference _)).mp ⟨_, rfl⟩
  · intro legal
    obtain ⟨sorted, accepted⟩ := (accepts_iff_legal (hasMarkers_reference _)).mpr legal
    cases accepted

end Deferred.Classification
