import Deferred.Plan.Build
import Deferred.Proofs.DerivedNames
import Deferred.Proofs.Roles
import Mathlib.Data.List.Infix
import Mathlib.Data.List.TakeWhile

/-!
# Accepted definitions

What the stages that come before any code make sure of: how the parameters are sorted, which of
them go together with the mode, and what the fields of the record are called.
-/

namespace Deferred

open Text Classification

/-! ## Accepted plans -/

/-- What the stages before any code make sure of. -/
structure Plan.Accepted (plan : Plan) : Prop where
  sorts : Sorts plan.signature plan.host plan.forEntity plan.signature.parameters
    plan.classification
  attributes : ∀ name ∈ plan.classification.fieldNames, name ∉ recordAttributes
  hasEntity : plan.forEntity = true → plan.classification.entity.isSome
  mode : plan.classification.mode = .ok plan.mode
  routing : checkRouting plan.signature plan.options = .ok ()
  recordName : isReserved plan.options.recordName = false
  extensionName : isReserved plan.options.extensionName = false

theorem Plan.of_orReport {ε α : Type} {report : ε → Fault} {outcome : Except ε α} {value : α}
    (runs : orReport report outcome = .ok value) : outcome = .ok value := by
  cases outcome with
  | ok found =>
    cases runs
    rfl
  | error error => cases runs

/-- A plan that was made is accepted; it is for the routine that it was made from. -/
theorem Plan.accepted_of_build {around : Surroundings} {target : Target} {raw : Options.Raw}
    {forEntity : Bool} {body : Value} {plan : Plan}
    (runs : build around target raw forEntity body = .ok plan) :
    plan.Accepted ∧ plan.body = body ∧ plan.forEntity = forEntity ∧
      Signature.ofTarget around.scope target = .ok plan.signature ∧
      Options.resolve raw plan.signature.name forEntity = .ok plan.options := by
  simp only [build, bind, Except.bind, pure, Except.pure] at runs
  split at runs
  · cases runs
  · rename_i signature isSignature
    split at runs
    · cases runs
    · rename_i options isOptions
      split at runs
      · cases runs
      · rename_i host isHost
        split at runs
        · cases runs
        · rename_i classification isClassified
          split at runs
          · cases runs
          · rename_i mode isMode
            split at runs
            · cases runs
            · rename_i _ isRouting
              cases runs
              obtain ⟨sorts, attributes, hasEntity⟩ := sorts_ofSignature (of_orReport isClassified)
              obtain ⟨recordName, extensionName⟩ :=
                Options.isReserved_of_resolve (of_orReport isOptions)
              exact ⟨⟨sorts, attributes, hasEntity, of_orReport isMode, of_orReport isRouting,
                recordName, extensionName⟩, rfl, rfl, of_orReport isSignature,
                of_orReport isOptions⟩

namespace Plan.Accepted

variable {plan : Plan}

/-- A routine that is called directly takes the world, no input and nothing injected. -/
theorem exclusive (accepted : plan.Accepted) (isExclusive : plan.mode = .exclusive) :
    plan.classification.context.isSome ∧ ∀ entry ∈ plan.classification.roles,
      entry.2 ≠ .pipedInput ∧ entry.2 ≠ .systemParam := by
  have mode := accepted.mode
  rw [isExclusive, Classification.mode] at mode
  split at mode
  · rename_i hasContext
    refine ⟨hasContext, ?_⟩
    split at mode
    · cases mode
    · rename_i noClash
      clear mode
      revert noClash
      induction plan.classification.roles with
      | nil => simp
      | cons entry rest ih =>
        obtain ⟨parameter, role⟩ := entry
        intro noClash other isIn
        cases role <;> simp only [clashWithWorld?] at noClash
        all_goals first
          | cases noClash
          | rcases List.mem_cons.mp isIn with rfl | isLater
            · simp
            · exact ih noClash other isLater
  · split at mode <;> cases mode

/-- A routine that the host runs takes no world from the command, and can be given by name what is
bound by name. -/
theorem scheduled (accepted : plan.Accepted) (isScheduled : plan.mode = .scheduled) :
    plan.classification.context = none ∧ ∀ entry ∈ plan.classification.roles,
      entry.2.isBoundByName = true → entry.1.isPositionalOnly = false := by
  have mode := accepted.mode
  rw [isScheduled, Classification.mode] at mode
  split at mode
  · split at mode <;> cases mode
  · rename_i noContext
    refine ⟨by simpa using noContext, ?_⟩
    split at mode
    · cases mode
    · rename_i bindable
      intro entry isIn isBound
      rw [unbindable?, Option.map_eq_none_iff, List.find?_eq_none] at bindable
      simpa [isBound] using bindable entry isIn

/-! ## Fields -/

/-- A field comes from a captured parameter, or from a name of the input. -/
inductive Brings (plan : Plan) (field : Field) : Prop where
  | captured (parameter : Parameter)
      (isCaptured : (parameter, Role.capturedField) ∈ plan.classification.roles)
      (name : field.name = parameter.name) (default : field.default = parameter.default)
      (keywordOnly : field.keywordOnly = parameter.isKeywordOnly)
  | piped (piped : PipedInput) (isPiped : plan.classification.piped = some piped)
      (isInput : (piped.parameter, Role.pipedInput) ∈ plan.classification.roles)
      (name : field.name ∈ piped.threaded.map Prod.fst)
      (default : field.default = (inputDefaults piped).lookup field.name)
      (keywordOnly : field.keywordOnly = piped.parameter.isKeywordOnly)

theorem brings (accepted : plan.Accepted) {field : Field} (isField : field ∈ plan.fields) :
    Brings plan field := by
  obtain ⟨⟨parameter, role⟩, isRole, isField⟩ := List.mem_flatMap.mp isField
  cases role with
  | capturedField =>
    obtain rfl := List.mem_singleton.mp isField
    exact .captured parameter isRole rfl rfl rfl
  | pipedInput =>
    obtain ⟨piped, isPiped, isParameter⟩ := (accepted.sorts.piped parameter).mp isRole
    rw [isPiped, fieldsOf] at isField
    obtain ⟨⟨name, type⟩, isThreaded, rfl⟩ := List.mem_map.mp isField
    exact .piped piped isPiped (isParameter ▸ isRole) (List.mem_map.mpr ⟨_, isThreaded, rfl⟩) rfl
      (by rw [isParameter])
  | _ => cases isField

theorem mem_fieldNames (accepted : plan.Accepted) {field : Field} (isField : field ∈ plan.fields) :
    field.name ∈ plan.classification.fieldNames := by
  rw [fieldNames, List.mem_append]
  cases accepted.brings isField with
  | captured parameter isCaptured name =>
    refine .inl (List.mem_map.mpr ⟨parameter, ?_, name.symm⟩)
    exact List.mem_map.mpr ⟨_, List.mem_filter.mpr ⟨isCaptured, by simp⟩, rfl⟩
  | piped piped isPiped _ name =>
    rw [isPiped]
    exact .inr name

/-- The names of the fields of the input are names that the input binds. -/
theorem mem_names_of_threaded {piped : PipedInput} {name : String}
    (isThreaded : name ∈ piped.threaded.map Prod.fst) : name ∈ piped.names := by
  obtain ⟨entry, isIn, rfl⟩ := List.mem_map.mp isThreaded
  rw [PipedInput.threaded] at isIn
  split at isIn
  · obtain ⟨found, isFirst, rfl⟩ := List.mem_map.mp isIn
    exact List.mem_of_mem_take isFirst
  · have isZipped : entry ∈ piped.names.zip piped.types := by
      unfold PipedInput.dropAt at isIn
      split at isIn
      · exact isIn
      · exact List.mem_of_mem_eraseIdx isIn
    exact (List.of_mem_zip (a := entry.1) (b := entry.2) isZipped).1

theorem reads (accepted : plan.Accepted) {piped : PipedInput}
    (isPiped : plan.classification.piped = some piped) :
    Reads plan.signature plan.host plan.forEntity piped.parameter piped :=
  reads_of_parseInput (accepted.sorts.parsed piped isPiped)

theorem mem_parameters (accepted : plan.Accepted) {parameter : Parameter} {role : Role}
    (isRole : (parameter, role) ∈ plan.classification.roles) :
    parameter ∈ plan.signature.parameters := by
  rw [← accepted.sorts.ordered]
  exact List.mem_map.mpr ⟨_, isRole, rfl⟩

/-- No field goes by a name that the receiver, the generated code or every record has. -/
theorem free (accepted : plan.Accepted) {field : Field} (isField : field ∈ plan.fields) :
    field.name ≠ "self" ∧ isReserved field.name = false ∧ field.name ∉ recordAttributes := by
  have apart := accepted.attributes _ (accepted.mem_fieldNames isField)
  cases accepted.brings isField with
  | captured parameter isCaptured name =>
    obtain ⟨notSelf, -, notReserved⟩ := accepted.sorts.named parameter
      (accepted.mem_parameters isCaptured)
    exact ⟨name ▸ notSelf, name ▸ notReserved, apart⟩
  | piped piped isPiped isInput name =>
    have isName := mem_names_of_threaded name
    rcases (accepted.reads isPiped).names.free _ isName with same | ⟨notSelf, notReserved⟩
    · obtain ⟨notSelf, -, notReserved⟩ := accepted.sorts.named piped.parameter
        (accepted.mem_parameters isInput)
      exact ⟨same ▸ notSelf, same ▸ notReserved, apart⟩
    · exact ⟨notSelf, notReserved, apart⟩

theorem nodup_threaded (accepted : plan.Accepted) {piped : PipedInput}
    (isPiped : plan.classification.piped = some piped) :
    (piped.threaded.map Prod.fst).Nodup := by
  have reads := accepted.reads isPiped
  have apart := reads.names.apart
  rw [PipedInput.threaded]
  split
  · rw [List.map_map]
    exact (apart.sublist (List.take_sublist 1 _)).map fun _ _ same => same
  · rename_i notPacked
    have balanced := reads.balanced (by simpa using notPacked)
    have zipped : ((piped.names.zip piped.types).map Prod.fst).Nodup := by
      rw [List.map_fst_zip (Nat.le_of_eq balanced)]
      exact apart
    unfold PipedInput.dropAt
    split
    · exact zipped
    · exact zipped.sublist ((List.eraseIdx_sublist _ _).map _)

/-- Where no two parameters go by one name, no two fields do. -/
theorem nodup_fields (accepted : plan.Accepted)
    (distinct : (plan.signature.parameters.map Parameter.name).Nodup) :
    (plan.fields.map Field.name).Nodup := by
  have apart : plan.classification.roles.Pairwise fun first second =>
      first.1.name ≠ second.1.name := by
    rw [← accepted.sorts.ordered, List.map_map] at distinct
    exact List.pairwise_map.mp distinct
  have names : ∀ {entry : Parameter × Role} {name : String}, entry ∈ plan.classification.roles →
      name ∈ (fieldsOf plan.classification.piped entry).map Field.name →
      name = entry.1.name ∨ ∃ piped, plan.classification.piped = some piped ∧
        piped.parameter = entry.1 ∧ name ∈ piped.names := by
    rintro ⟨parameter, role⟩ name isRole isName
    cases role with
    | capturedField => exact .inl (List.mem_singleton.mp isName)
    | pipedInput =>
      obtain ⟨piped, isPiped, isParameter⟩ := (accepted.sorts.piped parameter).mp isRole
      rw [isPiped, fieldsOf, List.map_map] at isName
      exact .inr ⟨piped, isPiped, isParameter, mem_names_of_threaded isName⟩
    | _ => cases isName
  rw [Plan.fields, List.map_flatMap, List.nodup_flatMap]
  constructor
  · rintro ⟨parameter, role⟩ isRole
    cases role with
    | capturedField => exact List.nodup_singleton _
    | pipedInput =>
      obtain ⟨piped, isPiped, -⟩ := (accepted.sorts.piped parameter).mp isRole
      rw [isPiped, fieldsOf, List.map_map]
      exact accepted.nodup_threaded isPiped
    | _ => exact List.nodup_nil
  · refine apart.imp_of_mem ?_
    intro first second isFirst isSecond differ name ofFirst ofSecond
    rcases names isFirst ofFirst with same | ⟨piped, isPiped, isParameter, isName⟩ <;>
      rcases names isSecond ofSecond with sameToo | ⟨other, isOther, isOtherParameter, isNameToo⟩
    · exact differ (same.symm.trans sameToo)
    · have shared := (accepted.reads isOther).names.unshared name isNameToo first.1
        (accepted.mem_parameters isFirst) same.symm
      rw [isOtherParameter] at shared
      exact differ shared
    · have shared := (accepted.reads isPiped).names.unshared name isName second.1
        (accepted.mem_parameters isSecond) sameToo.symm
      rw [isParameter] at shared
      exact differ shared.symm
    · rw [isPiped] at isOther
      cases isOther
      rw [← isParameter, ← isOtherParameter] at differ
      exact differ rfl

end Plan.Accepted

end Deferred
