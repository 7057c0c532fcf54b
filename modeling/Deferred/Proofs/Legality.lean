import Deferred.Proofs.Roles
import Mathlib.Algebra.GroupWithZero.Nat

/-!
# Legal signatures

Which signatures can be made a command is said here without the order in which the rules are tried:
each parameter is proper by itself, the world and the input are each asked for at most once, a
command of an entity gets its entity from exactly one place, and no field hides what every record
has.  Reading an input is the part of the classification that deals with one parameter alone: it
succeeds exactly for the inputs that are legal and carry no more than one entity.
-/

namespace Deferred.Classification

open Text

variable {nameOf? : Value → Option String} {signature : Signature} {host : Host} {forEntity : Bool}
  {parameter : Parameter}

/-! ## What a parameter asks for -/

/-- The annotation is the world of the host. -/
def asksWorld (host : Host) (parameter : Parameter) : Bool := denotes host.world parameter.hint

/-- The annotation is the entity of the host. -/
def asksEntity (host : Host) (parameter : Parameter) : Bool := denotes host.entity parameter.hint

/-- The annotation is the input of the host, with the type it carries or without. -/
def asksInput (host : Host) (parameter : Parameter) : Bool :=
  denotes host.input (parameter.hint.map Value.origin)

/-- The annotation is something that the host lists as injected. -/
def asksInjection (host : Host) (parameter : Parameter) : Bool :=
  host.systemParams.any (denotes · (parameter.hint.map Value.origin))

/-- The names that an input binds: those of its pattern, or its own. -/
def boundNames (parameter : Parameter) : List String :=
  match parameter.pattern with
  | none => [parameter.name]
  | some pattern => textsOf pattern

/-- The types that an input carries: the elements of its tuple, or one type. -/
def boundTypes (parameter : Parameter) : List Value := (carriedTypes parameter.hint).1

/-- An input carries a tuple of known length. -/
def carriesTuple (parameter : Parameter) : Bool := (carriedTypes parameter.hint).2

/-- One name stands for a whole tuple of several elements. -/
def isPacked (parameter : Parameter) : Bool :=
  carriesTuple parameter && (boundNames parameter).length = 1 && 1 < (boundTypes parameter).length

/-- How many entities an input carries, each under a name of its own. -/
def entitiesWithin (host : Host) (parameter : Parameter) : Nat :=
  if isPacked parameter then 0 else (boundTypes parameter).countP (Host.denotes host.entity)

/-- How many entities a parameter of a command of an entity brings. -/
def entitiesOf (host : Host) (parameter : Parameter) : Nat :=
  if asksInput host parameter then entitiesWithin host parameter
  else if asksEntity host parameter then 1 else 0

/-- The fields of the record that a parameter brings: an input those of its names that do not stand
for the entity of the command, a captured parameter its own name, every other one none. -/
def fieldsOf (host : Host) (forEntity : Bool) (parameter : Parameter) : List String :=
  if asksInput host parameter then
    if isPacked parameter then boundNames parameter
    else (((boundNames parameter).zip (boundTypes parameter)).filter fun entry =>
      !(forEntity && Host.denotes host.entity entry.2)).map Prod.fst
  else if asksWorld host parameter || (forEntity && asksEntity host parameter) ||
      asksInjection host parameter then []
  else [parameter.name]

/-! ## Legality -/

/-- A pattern that an input can have beside parameters of some other names. -/
structure LegalPattern (others : List String) (pattern : List Value) : Prop where
  nonempty : pattern ≠ []
  plain : ∀ value ∈ pattern,
    ∃ name mark, value = .text name mark ∧ isName name = true ∧ name ≠ "self"
  apart : (textsOf pattern).Nodup
  unreserved : ∀ name ∈ textsOf pattern, isReserved name = false
  unshared : ∀ name ∈ textsOf pattern, name ∉ others

/-- An input that is legal beside parameters of some other names.  There is a name for each type or
one name for a tuple, and a tuple that is taken apart has a tuple of as many values as default. -/
structure LegalInput (others : List String) (parameter : Parameter) : Prop where
  pattern : ∀ pattern, parameter.pattern = some pattern → LegalPattern others pattern
  balanced : isPacked parameter = true ∨
    (boundNames parameter).length = (boundTypes parameter).length
  default : carriesTuple parameter = true → isPacked parameter = false →
    ∀ default, parameter.default = some default →
      ∃ items mark, default = .tuple items mark ∧ items.length = (boundTypes parameter).length

/-- The annotation goes by the name of a marker and is none of the things the host registers. -/
def LooksAlike (nameOf? : Value → Option String) (host : Host) (parameter : Parameter) : Prop :=
  (∃ hint name, parameter.hint = some hint ∧ nameOf? hint.origin = some name ∧
    name ∈ ["World", "Entity", "In"]) ∧
  asksWorld host parameter = false ∧ asksEntity host parameter = false ∧
    asksInput host parameter = false ∧ asksInjection host parameter = false

/-- A parameter that breaks no rule by itself, among parameters of some other names. -/
structure Proper (nameOf? : Value → Option String) (host : Host) (others : List String)
    (parameter : Parameter) : Prop where
  plain : parameter.name ≠ "self" ∧ parameter.kind.isVariadic = false ∧
    isReserved parameter.name = false
  input : asksInput host parameter = true → LegalInput others parameter
  unpatterned : asksInput host parameter = false → parameter.pattern = none
  recognized : ¬ LooksAlike nameOf? host parameter

/-- The names of the other parameters. -/
def namesBeside (signature : Signature) (parameter : Parameter) : List String :=
  (signature.parameters.map Parameter.name).erase parameter.name

/-- A signature that can be made a command, of an entity or of none. -/
structure Legal (nameOf? : Value → Option String) (signature : Signature) (host : Host)
    (forEntity : Bool) : Prop where
  proper : ∀ parameter ∈ signature.parameters,
    Proper nameOf? host (namesBeside signature parameter) parameter
  oneWorld : signature.parameters.countP (asksWorld host) ≤ 1
  oneInput : signature.parameters.countP (asksInput host) ≤ 1
  oneEntity : forEntity = true → (signature.parameters.map (entitiesOf host)).sum = 1
  unhidden : ∀ parameter ∈ signature.parameters, ∀ name ∈ fieldsOf host forEntity parameter,
    name ≠ "apply" ∧ name ≠ "with_entity"

/-- The markers that parameters are recognised by are three classes. -/
structure HasMarkers (host : Host) (worldId entityId inputId : ClassId) : Prop where
  world : host.world = .cls worldId
  entity : host.entity = .cls entityId
  input : host.input = .cls inputId
  apart : worldId ≠ entityId ∧ worldId ≠ inputId ∧ entityId ≠ inputId

/-! ## The names of an input -/

theorem repeats_eq_false {names : List String} : repeats names = false ↔ names.Nodup := by
  refine ⟨nodup_of_repeats, fun apart => ?_⟩
  induction apart with
  | nil => rfl
  | cons fresh _ ih =>
    rw [repeats, ih, Bool.or_false, List.contains_eq_mem, decide_eq_false_iff_not]
    exact fun isIn => fresh _ isIn rfl

theorem least?_eq_none {names : List String} : least? names = none ↔ names = [] :=
  ⟨nil_of_least?, fun isNil => by rw [isNil]; rfl⟩

theorem isFieldName_iff {value : Value} : isFieldName value = true ↔
    ∃ name mark, value = .text name mark ∧ isName name = true ∧ name ≠ "self" := by
  constructor
  · intro isField
    unfold isFieldName at isField
    split at isField
    · rename_i name mark
      exact ⟨name, mark, rfl, by simpa using isField⟩
    · cases isField
  · rintro ⟨name, mark, rfl, isName, apart⟩
    simp [isFieldName, isName, apart]

/-- A pattern is legal if it passes the tests that are made of it. -/
theorem legalPattern_iff {others : List String} {pattern : List Value} :
    LegalPattern others pattern ↔
      (pattern.isEmpty || !pattern.all isFieldName) = false ∧
        repeats (textsOf pattern) = false ∧ (textsOf pattern).any isReserved = false ∧
          least? ((textsOf pattern).filter others.contains) = none := by
  have tested : (pattern.isEmpty || !pattern.all isFieldName) = false ↔
      pattern ≠ [] ∧ ∀ value ∈ pattern, isFieldName value = true := by
    simp [Bool.or_eq_false_iff, List.isEmpty_eq_false_iff]
  have unclashing : (textsOf pattern).filter others.contains = [] ↔
      ∀ name ∈ textsOf pattern, name ∉ others := by
    simp [List.filter_eq_nil_iff]
  rw [tested, repeats_eq_false, List.any_eq_false, least?_eq_none, unclashing]
  constructor
  · rintro ⟨nonempty, plain, apart, unreserved, unshared⟩
    exact ⟨⟨nonempty, fun value isIn => isFieldName_iff.mpr (plain value isIn)⟩, apart,
      fun name isIn => by simp [unreserved name isIn], unshared⟩
  · rintro ⟨⟨nonempty, plain⟩, apart, unreserved, unshared⟩
    exact ⟨nonempty, fun value isIn => isFieldName_iff.mp (plain value isIn), apart,
      fun name isIn => by simpa using unreserved name isIn, unshared⟩

/-- An input binds its names exactly if its pattern is legal. -/
theorem inputNames_eq_ok {names : List String} :
    inputNames signature parameter = .ok names ↔ names = boundNames parameter ∧
      ∀ pattern, parameter.pattern = some pattern →
        LegalPattern (namesBeside signature parameter) pattern := by
  rw [inputNames, boundNames]
  cases parameter.pattern with
  | none => simp [eq_comm]
  | some pattern =>
    simp only [Option.some.injEq, forall_eq', legalPattern_iff, namesBeside]
    split
    · rename_i rejected
      simp only [rejected, reduceCtorEq, false_and, and_false]
    · rename_i plain
      split
      · rename_i rejected
        simp only [rejected, reduceCtorEq, false_and, and_false]
      · rename_i apart
        split
        · rename_i rejected
          simp only [rejected, reduceCtorEq, false_and, and_false]
        · rename_i unreserved
          split
          · rename_i rejected
            simp only [rejected, reduceCtorEq, and_false]
          · rename_i unshared
            simp only [Bool.not_eq_true] at plain apart unreserved
            simp only [plain, apart, unreserved, unshared, Except.ok.injEq, and_true]
            exact eq_comm

/-! ## The input -/

theorem shapeOf_eq_packed (parameter : Parameter) : shapeOf (carriesTuple parameter) (boundNames parameter).length
    (boundTypes parameter).length = .packed ↔ isPacked parameter = true := by
  unfold shapeOf isPacked
  cases carriesTuple parameter with
  | false => simp
  | true => simp

theorem shapeOf_eq_elements (parameter : Parameter) : shapeOf (carriesTuple parameter) (boundNames parameter).length
    (boundTypes parameter).length = .elements ↔
      carriesTuple parameter = true ∧ isPacked parameter = false := by
  unfold shapeOf isPacked
  cases carriesTuple parameter with
  | false => simp
  | true => simp

theorem isTupleOf_iff {count : Nat} {value : Value} : isTupleOf count value = true ↔
    ∃ items mark, value = .tuple items mark ∧ items.length = count := by
  unfold isTupleOf
  split <;> simp_all

theorem length_positions {α : Type} (test : α → Bool) (start : Nat) (items : List α) :
    (positions test start items).length = items.countP test := by
  induction items generalizing start with
  | nil => rfl
  | cons item rest ih =>
    rw [positions, List.countP_cons]
    split <;> simp_all

theorem head?_positions {α : Type} (test : α → Bool) (start : Nat) (items : List α) :
    (positions test start items).head? = (items.findIdx? test).map (start + ·) := by
  induction items generalizing start with
  | nil => rfl
  | cons item rest ih =>
    rw [positions, List.findIdx?_cons]
    split
    · simp
    · rw [ih, Option.map_map]
      congr 1
      funext index
      simp only [Function.comp_apply]
      omega

/-- The entities that reading an input finds. -/
def entitiesIn (host : Host) (forEntity : Bool) (parameter : Parameter) : List Nat :=
  if forEntity && !isPacked parameter then
    positions (Host.denotes host.entity) 0 (boundTypes parameter)
  else []

/-- What is read of an input that is legal. -/
def inputOf (host : Host) (forEntity : Bool) (parameter : Parameter) : PipedInput where
  parameter := parameter
  names := boundNames parameter
  types := boundTypes parameter
  shape := shapeOf (carriesTuple parameter) (boundNames parameter).length
    (boundTypes parameter).length
  entityIndex := (entitiesIn host forEntity parameter).head?

theorem length_entitiesIn : (entitiesIn host forEntity parameter).length ≤ 1 ↔
    (forEntity = true → entitiesWithin host parameter ≤ 1) := by
  unfold entitiesIn entitiesWithin
  cases forEntity <;> cases isPacked parameter <;> simp [length_positions]

/-- An input is read exactly if it is legal and brings no more than one entity. -/
theorem parseInput_eq_ok {piped : PipedInput} :
    parseInput signature host forEntity parameter = .ok piped ↔
      piped = inputOf host forEntity parameter ∧
        LegalInput (namesBeside signature parameter) parameter ∧
          (forEntity = true → entitiesWithin host parameter ≤ 1) := by
  cases ofNames : inputNames signature parameter with
  | error error =>
    simp only [parseInput, ofNames, bind, Except.bind, reduceCtorEq, false_iff, not_and]
    intro _ legal
    rw [inputNames_eq_ok.mpr ⟨rfl, legal.pattern⟩] at ofNames
    cases ofNames
  | ok names =>
    obtain ⟨rfl, pattern⟩ := inputNames_eq_ok.mp ofNames
    have runs : parseInput signature host forEntity parameter =
        if isPacked parameter = false ∧
            (boundNames parameter).length ≠ (boundTypes parameter).length then
          .error (.imbalanced (boundNames parameter) (boundTypes parameter))
        else if 1 < (entitiesIn host forEntity parameter).length then .error .severalEntities
        else if (carriesTuple parameter = true ∧ isPacked parameter = false) ∧
            parameter.default.any (!isTupleOf (boundTypes parameter).length ·) = true then
          .error (.inputDefault (parameter.default.getD .absent) (boundTypes parameter).length)
        else .ok (inputOf host forEntity parameter) := by
      have reads : carriedTypes parameter.hint = (boundTypes parameter, carriesTuple parameter) :=
        rfl
      simp only [parseInput, ofNames, reads, bind, Except.bind, pure, Except.pure, throw, throwThe,
        MonadExceptOf.throw, inputOf, entitiesIn, Bool.and_eq_true, decide_eq_true_eq, ne_eq,
        shapeOf_eq_packed, shapeOf_eq_elements, Bool.not_eq_true, Bool.not_eq_true']
      by_cases isUnpacked : carriesTuple parameter = true ∧ isPacked parameter = false
      · cases parameter.default <;> simp [isUnpacked]
      · simp only [isUnpacked, if_false, false_and]
    rw [runs, ← length_entitiesIn]
    clear runs
    split
    · rename_i imbalanced
      simp only [reduceCtorEq, false_iff, not_and]
      intro _ legal
      rcases legal.balanced with isPacked | balanced
      · simp [isPacked] at imbalanced
      · exact absurd balanced imbalanced.2
    · rename_i balanced
      have isBalanced : isPacked parameter = true ∨
          (boundNames parameter).length = (boundTypes parameter).length := by
        rw [Classical.not_and_iff_not_or_not] at balanced
        simpa using balanced
      split
      · rename_i several
        simp only [reduceCtorEq, false_iff, not_and]
        intro _ _
        omega
      · rename_i single
        split
        · rename_i rejected
          simp only [reduceCtorEq, false_iff, not_and]
          intro _ legal
          obtain ⟨default, isDefault, wrong⟩ := (Option.any_eq_true ..).mp rejected.2
          have isTuple := legal.default rejected.1.1 rejected.1.2 default isDefault
          rw [← isTupleOf_iff] at isTuple
          simp [isTuple] at wrong
        · rename_i accepted
          have default : carriesTuple parameter = true → isPacked parameter = false →
              ∀ default, parameter.default = some default → ∃ items mark,
                default = .tuple items mark ∧ items.length = (boundTypes parameter).length := by
            intro isTuple isUnpacked default isDefault
            rw [← isTupleOf_iff]
            simpa [isTuple, isUnpacked, isDefault] using accepted
          exact ⟨fun isRead => ⟨(Except.ok.inj isRead).symm, ⟨pattern, isBalanced, default⟩,
            Nat.le_of_not_lt single⟩, fun legal => by rw [legal.1]⟩

/-! ## The fields of an input -/

/-- Leaving out the first item of a kind leaves out all of them, if there is no second. -/
theorem dropAt_findIdx? {α : Type} {test : α → Bool} {items : List α}
    (single : items.countP test ≤ 1) :
    PipedInput.dropAt (items.findIdx? test) items = items.filter (!test ·) := by
  induction items with
  | nil => rfl
  | cons item rest ih =>
    rw [List.countP_cons] at single
    rw [List.findIdx?_cons]
    cases isFound : test item with
    | true =>
      have others : ∀ other ∈ rest, test other = false := by
        have none : rest.countP test = 0 := by simpa [isFound] using single
        simpa [List.countP_eq_zero] using none
      have kept : rest.filter (!test ·) = rest :=
        List.filter_eq_self.mpr fun other isIn => by simp [others other isIn]
      simp [isFound, kept, PipedInput.dropAt]
    | false =>
      have ih := ih (by simpa [isFound] using single)
      cases found : rest.findIdx? test with
      | none => simpa [isFound, found, PipedInput.dropAt] using ih
      | some index => simpa [isFound, found, PipedInput.dropAt] using ih

/-- The names that an input threads through the record are the fields it brings. -/
theorem names_threaded {others : List String} (asks : asksInput host parameter = true)
    (legal : LegalInput others parameter)
    (single : forEntity = true → entitiesWithin host parameter ≤ 1) :
    (inputOf host forEntity parameter).threaded.map Prod.fst =
      fieldsOf host forEntity parameter := by
  cases packed : isPacked parameter with
  | true =>
    have shape : (inputOf host forEntity parameter).shape = .packed :=
      (shapeOf_eq_packed parameter).mpr packed
    have one : (boundNames parameter).length = 1 := by
      simp only [isPacked, Bool.and_eq_true, decide_eq_true_eq] at packed
      exact packed.1.2
    simp only [PipedInput.threaded, shape, fieldsOf, asks, packed, if_true, List.map_map]
    change ((boundNames parameter).take 1).map id = boundNames parameter
    rw [List.map_id, List.take_of_length_le (Nat.le_of_eq one)]
  | false =>
    have threaded : (inputOf host forEntity parameter).threaded =
        PipedInput.dropAt (entitiesIn host forEntity parameter).head?
          ((boundNames parameter).zip (boundTypes parameter)) := by
      have unpacked : (inputOf host forEntity parameter).shape ≠ .packed := by
        intro isPacked
        rw [(shapeOf_eq_packed parameter).mp isPacked] at packed
        cases packed
      unfold PipedInput.threaded
      split
      · rename_i isPacked
        exact absurd isPacked unpacked
      · rfl
    rw [threaded]
    simp only [fieldsOf, asks, packed, if_true, Bool.false_eq_true, if_false]
    congr 1
    cases forEntity with
    | false => simp [entitiesIn, PipedInput.dropAt]
    | true =>
      have balanced : (boundNames parameter).length = (boundTypes parameter).length := by
        simpa [packed] using legal.balanced
      have types : ((boundNames parameter).zip (boundTypes parameter)).map Prod.snd =
          boundTypes parameter := List.map_snd_zip (Nat.le_of_eq balanced.symm)
      have found : (entitiesIn host true parameter).head? =
          ((boundNames parameter).zip (boundTypes parameter)).findIdx?
            (Host.denotes host.entity ∘ Prod.snd) := by
        rw [← List.findIdx?_map, types]
        simp [entitiesIn, packed, head?_positions]
      have atMostOne : ((boundNames parameter).zip (boundTypes parameter)).countP
          (Host.denotes host.entity ∘ Prod.snd) ≤ 1 := by
        rw [← List.countP_map, types]
        simpa [entitiesWithin, packed] using single
      rw [found, dropAt_findIdx? atMostOne]
      simp

end Deferred.Classification
