import Deferred.Proofs.Checking

/-!
# The record that a method makes

A method takes its arguments under the names of the fields and makes the record from local variables
of these names.  As long as the record keeps its fields under the names that they are given by, the
record holds what the arguments say: what was given for a field, or the default of the field.
-/

namespace Deferred

open Store Action

namespace Arguments

/-- What fills parameters goes by their names, in their order. -/
theorem keys_of_fill {keywords extra : List (String × Value)} {parameters : List CallParameter}
    {positional : List Value} {filled : List (String × Filling)}
    (fits : fill keywords extra parameters positional = some filled) :
    filled.map Prod.fst = parameters.map CallParameter.name := by
  induction parameters generalizing positional filled with
  | nil =>
    cases positional with
    | nil =>
      cases fits
      rfl
    | cons _ _ => cases fits
  | cons parameter rest ih =>
    have step : ∀ {filling : Filling} {others : List Value},
        (fill keywords extra rest others).map ((parameter.name, filling) :: ·) = some filled →
        filled.map Prod.fst = (parameter :: rest).map CallParameter.name := by
      intro filling others fitsRest
      obtain ⟨later, isLater, rfl⟩ := Option.map_eq_some_iff.mp fitsRest
      rw [List.map_cons, List.map_cons, ih isLater]
    simp only [fill] at fits
    split at fits
    · exact step fits
    · exact step fits
    · split at fits
      · exact step fits
      · cases fits
      · exact step fits
      · obtain ⟨value, -, fitsRest⟩ := Option.bind_eq_some_iff.mp fits
        exact step fitsRest

/-- Values that were made of what fills parameters go by the same names. -/
theorem values_eq_ok {filled : List (String × Filling)} {locals : Bindings} {before after : Store}
    (runs : (values filled).run before = (.ok locals, after)) :
    locals.map Prod.fst = filled.map Prod.fst ∧ before.Grows after := by
  induction filled generalizing before locals with
  | nil =>
    cases runs
    exact ⟨rfl, .refl _⟩
  | cons entry rest ih =>
    obtain ⟨name, filling⟩ := entry
    cases filling with
    | value value =>
      simp only [values, bind_eq, run_bind_eq_ok] at runs
      obtain ⟨others, between, first, ends⟩ := runs
      cases ends
      obtain ⟨keys, grows⟩ := ih first
      exact ⟨by rw [List.map_cons, List.map_cons, keys], grows⟩
    | named entries =>
      simp only [values, bind_eq, run_allocate_bind, run_bind_eq_ok] at runs
      obtain ⟨others, between, first, ends⟩ := runs
      cases ends
      obtain ⟨keys, grows⟩ := ih first
      exact ⟨by rw [List.map_cons, List.map_cons, keys], (Grows.allocate _ _ _).trans grows⟩

/-- Arguments that fit leave a local variable for each parameter. -/
theorem bindTo_eq_ok {owner : String} {parameters : List CallParameter} {arguments : Arguments}
    {locals : Bindings} {before after : Store}
    (runs : (bindTo owner parameters arguments).run before = (.ok locals, after)) :
    locals.map Prod.fst = parameters.map CallParameter.name ∧ before.Grows after := by
  rw [bindTo] at runs
  cases fits : fit? parameters arguments with
  | none =>
    rw [fits] at runs
    cases runs
  | some filled =>
    rw [fits] at runs
    obtain ⟨keys, grows⟩ := values_eq_ok runs
    refine ⟨keys.trans ?_, grows⟩
    rw [fit?] at fits
    split at fits
    · cases fits
    · exact keys_of_fill fits

end Arguments

namespace Code

variable {plan : Plan} {function : FunctionObject} {generation : Generation}
  {before after later reached : Store} {bound : Nat} {arguments : Arguments} {locals : Bindings}

/-- What local variables mean. -/
def meant (locals : Bindings) (name : String) : Value := (Entries.get? locals name).getD .absent

/-- What the names and values of a command's fields keep free of, so that a record holds what it is
given: no field goes by a name that instances have a use of their own for, and no value asks for a
default that is made anew. -/
structure Gives (plan : Plan) (give : String → Value) : Prop where
  free : ∀ field ∈ plan.fields, field.name ∉ instanceNames
  unmarked : ∀ field ∈ plan.fields, ∀ value, field.default = some value →
    value.classId.isUnhashable = true →
      Value.same (give field.name) (newDefault (plan.fields.map Field.name) give) = false

theorem Gives.plainFields {store : Store} {id : ClassId} {space : Ref} {own : List RecordField}
    {give : String → Value} (gives : Gives plan give) (sound : Sound plan)
    (holds : RecordOf store plan id space own) : PlainFields store id own where
  unhooked hook isHook := holds.hooks hook (List.mem_append_left _ isHook)
  apart := holds.names ▸ sound.plainNames.apart
  free name isName := by
    rw [holds.names] at isName
    obtain ⟨field, isField, rfl⟩ := List.mem_map.mp isName
    exact ⟨gives.free field isField, (sound.accepted.free isField).1⟩

theorem Gives.unmarkedFields {store : Store} {id : ClassId} {space : Ref} {own : List RecordField}
    {give : String → Value} (gives : Gives plan give)
    (holds : RecordOf store plan id space own) : Unmarked own give := by
  intro field isField isMade
  obtain ⟨declared, isDeclared, sameName, value, isDefault, changes⟩ :=
    holds.factories field isField isMade
  rw [← sameName, holds.names]
  exact gives.unmarked declared isDeclared value isDefault changes

/-- The parameters of a method are its receiver and the fields. -/
theorem mem_names_methodTakes {name : String} :
    name ∈ (methodTakes plan).map CallParameter.name ↔
      name = "self" ∨ name ∈ plan.fields.map Field.name := by
  simp only [methodTakes, fieldParameters, fieldParameter, List.map_append, List.map_cons,
    List.map_nil, List.map_map, List.mem_append, List.mem_cons, List.not_mem_nil, or_false,
    List.mem_map, List.mem_filter, Function.comp_apply, Arguments.name_plain]
  constructor
  · rintro (isSelf | ⟨field, ⟨isField, -⟩, isName⟩ | ⟨field, ⟨isField, -⟩, isName⟩)
    · exact .inl isSelf
    · exact .inr ⟨field, isField, isName⟩
    · exact .inr ⟨field, isField, isName⟩
  · rintro (isSelf | ⟨field, isField, isName⟩)
    · exact .inl isSelf
    · cases kind : field.keywordOnly with
      | false => exact .inr (.inl ⟨field, ⟨isField, by simp [kind]⟩, isName⟩)
      | true => exact .inr (.inr ⟨field, ⟨isField, kind⟩, isName⟩)

/-- Among implementations that were made one by one, each was made for one of the plan. -/
theorem exists_implements {store : Store} {space : Ref}
    {implementations : List Plan.Implementation} {made : List (ClassId × Value)}
    (implemented : List.Forall₂ (Implements store plan space) implementations made)
    {entry : ClassId × Value} (isOne : entry ∈ made) :
    ∃ implementation ∈ implementations, Implements store plan space implementation entry := by
  induction implemented with
  | nil => cases isOne
  | cons first _ ih =>
    rcases List.mem_cons.mp isOne with rfl | isLater
    · exact ⟨_, List.mem_cons_self, first⟩
    · obtain ⟨implementation, isIn, implements⟩ := ih isLater
      exact ⟨implementation, List.mem_cons_of_mem _ isIn, implements⟩

/-- The method of a command makes its record: whatever arguments fit its parameters, the record is
made, and under the name of each field it holds what the arguments leave for the parameter of that
name. -/
theorem method_constructs_record {id : ClassId} {method : Value} {owner : String} (depth : Nat)
    (sound : Sound plan) (intact : before.Intact)
    (isRoutine : before.IsRoutine plan.body function)
    (runs : (generate (Action.machine bound) plan).run before = (.ok generation, after))
    (follows : after.Follows later) (isExtended : plan.options.noExtension = false)
    (isOne : (id, method) ∈ generation.implementations)
    (binds : (arguments.bindTo owner (methodTakes plan)).run later = (.ok locals, reached))
    (gives : Gives plan (meant locals)) :
    ∃ implementation ∈ plan.implementations, ∃ space,
      later.RunsCode method (methodTakes plan) implementation.body space ∧
      (∀ field ∈ plan.fields, Entries.get? locals field.name = some (meant locals field.name)) ∧
      (evaluate ⟨Action.machine (depth + 1), space⟩ locals (Plan.construct plan.fields)).run
          reached =
        (.ok (.object generation.recordClass reached.cells.size),
          (Change.allocate .plain
            (Arguments.named (plan.fields.map Field.name) (meant locals))).apply reached) := by
  obtain ⟨routed, space, own, made⟩ := generate_eq_ok sound intact isRoutine runs
  have carries := made.carries.of_follows follows
  have sameMethod : routed.options.noExtension = plan.options.noExtension := by
    rw [made.isPlan]
  obtain ⟨_, _, _, -, -, -, implemented⟩ := carries.method (sameMethod.trans isExtended)
  obtain ⟨implementation, isImplementation, implements⟩ := exists_implements implemented isOne
  have samePlan : routed.fields = plan.fields ∧ methodTakes routed = methodTakes plan ∧
      routed.implementations = plan.implementations := by
    rw [made.isPlan]
    exact ⟨rfl, rfl, rfl⟩
  obtain ⟨sameFields, sameTakes, sameImplementations⟩ := samePlan
  obtain ⟨keys, grows⟩ := Arguments.bindTo_eq_ok binds
  have isKey : ∀ name, name ∈ Entries.keys locals ↔
      name = "self" ∨ name ∈ plan.fields.map Field.name := by
    intro name
    rw [Entries.keys, keys, mem_names_methodTakes]
  have isLocal : ∀ field ∈ plan.fields,
      Entries.get? locals field.name = some (meant locals field.name) := by
    intro field isField
    have isBound := (isKey field.name).mpr (.inr (List.mem_map.mpr ⟨field, isField, rfl⟩))
    cases found : Entries.get? locals field.name with
    | none => exact absurd isBound (Entries.get?_eq_none_iff.mp found)
    | some value => simp [meant, found]
  -- The record goes by a name that is kept for generated code, so no local variable hides it.
  have notLocal : Entries.get? locals recordAlias = none := by
    rw [Entries.get?_eq_none_iff, isKey]
    rintro (isSelf | isField)
    · exact absurd isSelf (by decide)
    · obtain ⟨field, isField, isName⟩ := List.mem_map.mp isField
      have free := sound.plainNames.notReserved field isField
      rw [isName] at free
      exact absurd free (by decide)
  have holds := (Keeps.of_grows grows).recordOf carries.isAlias.record
  have isRecord : Means ⟨Action.machine (depth + 1), space⟩ locals reached recordAlias
      (.cls generation.recordClass) := .inr ⟨notLocal, grows.name? carries.isAlias.means⟩
  have givesToo : Gives routed (meant locals) :=
    { free := sameFields ▸ gives.free, unmarked := sameFields ▸ gives.unmarked }
  refine ⟨implementation, sameImplementations ▸ isImplementation, space,
    sameTakes ▸ implements.runs, isLocal, ?_⟩
  rw [run_evaluate_construct isRecord isLocal, ← sameFields, ← holds.names]
  exact run_construct_record holds.record ((follows.keeps.intact
      (made.follows.keeps.intact intact)).of_grows grows)
    (givesToo.plainFields made.sound holds) (givesToo.unmarkedFields holds)

/-! ## A sample -/

/-- A module with one function in it, `pay`, that takes the world and a whole number under a name,
and leaves the number with the world. -/
def payStore (name : String) : Store where
  modules := { made := [("game_mod", [])], listed := ["game_mod"] }
  cells := #[
    { object := .dict [(.ofText "world", .ofText "World"), (.ofText name, .ofText "int")] },
    { object := .function
        { name := "pay", qualname := "pay", home := .ofText "game_mod", doc := .absent
          parameters := [.plain "world", .plain name]
          annotations := .object ClassId.dict 0
          body := .script (.setAttribute (.variable "world") "paid" (.variable name)) 0
          names := [("World", .cls ClassId.world)] } }]

/-- The plan for that function. -/
def payPlan (name : String) : Plan :=
  (answerOf (planFor (.object ClassId.function 1) [] false) (payStore name)).1

/-- What is generated for that function, and the store that is left. -/
def payGeneration (name : String) : Generation × Store :=
  answerOf (generate (Action.machine 20) (payPlan name)) (payStore name)

theorem payStore_intact (name : String) : (payStore name).Intact where
  declared _ _ := rfl
  unchanged _ _ _ _ _ _ := ⟨rfl, by simp [payStore]⟩
  settled _ _ _ _ isPut := by cases isPut
  numbered _ _ _ _ := ⟨rfl, rfl⟩

/-- What the plan says: a method with one plain field, for a routine that is called with the world and
that field, and whose outcome is not routed. -/
theorem payPlan_says :
    ((planFor (.object ClassId.function 1) [] false).run (payStore "fee")).1.isOk = true ∧
      Checked (payPlan "fee") ∧ (payPlan "fee").options.noExtension = false ∧
      (payPlan "fee").mode = .exclusive ∧ (payPlan "fee").forEntity = false ∧
      (payPlan "fee").isRouted = false ∧ (payPlan "fee").signature.chainable = false ∧
      (payPlan "fee").classification.roles.map
        (fun entry => (entry.1.isKeywordOnly, entry.1.name, entry.2)) =
          [(false, "world", .context), (false, "fee", .capturedField)] ∧
      (payPlan "fee").fields.map Field.name = ["fee"] ∧
      ∀ field ∈ (payPlan "fee").fields,
        field.default.isNone = true ∧ field.keywordOnly = false := by
  decide +kernel

theorem payPlan_sound :
    Sound (payPlan "fee") ∧ (payPlan "fee").body = .object ClassId.function 1 := by
  obtain ⟨isPlanned, checked, -⟩ := payPlan_says
  obtain ⟨accepted, isBody⟩ := planFor_eq_ok (run_eq_answerOf isPlanned)
  exact ⟨.of_checked accepted checked, isBody⟩

theorem run_generate_pay :
    (generate (Action.machine 20) (payPlan "fee")).run (payStore "fee") =
        (.ok (payGeneration "fee").1, (payGeneration "fee").2) ∧
      (payGeneration "fee").1.implementations.isEmpty = false := by
  have facts : ((generate (Action.machine 20) (payPlan "fee")).run (payStore "fee")).1.isOk =
      true ∧ (payGeneration "fee").1.implementations.isEmpty = false := by decide +kernel
  exact ⟨run_eq_answerOf facts.1, facts.2⟩

theorem payPlan_isRoutine :
    ∃ function, (payStore "fee").IsRoutine (payPlan "fee").body function := by
  refine ⟨_, ⟨1, payPlan_sound.2, rfl⟩, ?_⟩
  rw [payPlan_sound.2]
  simp [KeepsParts, attributesOf, payStore, Store.cell?]

/-- A method that takes plain fields takes them by position. -/
theorem methodTakes_plain
    (plain : ∀ field ∈ plan.fields, field.default = none ∧ field.keywordOnly = false) :
    methodTakes plan = ("self" :: plan.fields.map Field.name).map CallParameter.plain := by
  have positional : plan.fields.filter (!·.keywordOnly) = plan.fields :=
    List.filter_eq_self.mpr fun field isField => by simp [(plain field isField).2]
  have named : plan.fields.filter (·.keywordOnly) = [] :=
    List.filter_eq_nil_iff.mpr fun field isField => by simp [(plain field isField).2]
  rw [methodTakes, fieldParameters, positional, named, List.map_nil, List.append_nil]
  simp only [List.map_cons, List.map_nil, List.map_map, List.cons_append, List.nil_append]
  refine congrArg _ (List.map_congr_left fun field isField => ?_)
  rw [fieldParameter, (plain field isField).1]
  rfl

/-- The method of `pay`, called with a receiver and a number, makes a record of that number. -/
theorem method_constructs_record_pay :
    ∃ implementation ∈ (payPlan "fee").implementations, ∃ method space,
      (payGeneration "fee").2.RunsCode method (methodTakes (payPlan "fee"))
        implementation.body space ∧
      (evaluate ⟨Action.machine 1, space⟩ [("self", .absent), ("fee", .ofInt 3)]
          (Plan.construct (payPlan "fee").fields)).run (payGeneration "fee").2 =
        (.ok (.object (payGeneration "fee").1.recordClass (payGeneration "fee").2.cells.size),
          (Change.allocate .plain [("fee", .ofInt 3)]).apply (payGeneration "fee").2) := by
  obtain ⟨function, isRoutine⟩ := payPlan_isRoutine
  obtain ⟨runs, hasSome⟩ := run_generate_pay
  obtain ⟨-, -, isExtended, -, -, -, -, -, names, plain⟩ := payPlan_says
  have noDefault : ∀ field ∈ (payPlan "fee").fields, field.default = none :=
    fun field isField => Option.isNone_iff_eq_none.mp (plain field isField).1
  have isNamed : ∀ field ∈ (payPlan "fee").fields, field.name = "fee" := fun field isField =>
    List.mem_singleton.mp (names ▸ List.mem_map.mpr ⟨field, isField, rfl⟩)
  have binds : ((Arguments.ofList [.absent, .ofInt 3]).bindTo "pay"
      (methodTakes (payPlan "fee"))).run (payGeneration "fee").2 =
      (.ok [("self", .absent), ("fee", .ofInt 3)], (payGeneration "fee").2) := by
    rw [methodTakes_plain fun field isField =>
      ⟨noDefault field isField, (plain field isField).2⟩, names]
    exact Arguments.run_bindTo_plain "pay" rfl
  have gives : Gives (payPlan "fee") (meant [("self", .absent), ("fee", .ofInt 3)]) := by
    refine ⟨fun field isField => ?_, fun field isField value isDefault => ?_⟩
    · rw [isNamed field isField]
      decide
    · rw [noDefault field isField] at isDefault
      cases isDefault
  cases isImplemented : (payGeneration "fee").1.implementations with
  | nil => simp [isImplemented] at hasSome
  | cons entry rest =>
    obtain ⟨implementation, isOne, space, runsCode, -, makes⟩ := method_constructs_record 0
      payPlan_sound.1 (payStore_intact "fee") isRoutine runs (.refl _) isExtended
      (isImplemented ▸ List.mem_cons_self) binds gives
    rw [names] at makes
    exact ⟨implementation, isOne, entry.2, space, runsCode, makes⟩

/-- A field whose name is private to the record: the arguments fit the method, but the record
refuses them, since it keeps the field under another name. -/
theorem private_field_is_refused :
    ((generate (Action.machine 20) (payPlan "__fee")).run (payStore "__fee")).1.isOk = true ∧
      (Arguments.fit? (methodTakes (payPlan "__fee"))
        (Arguments.ofList [.absent, .ofInt 3])).isSome = true ∧
      ((evaluate ⟨Action.machine 20, (payStore "__fee").cells.size⟩
        [("self", .absent), ("__fee", .ofInt 3)] (Plan.construct (payPlan "__fee").fields)).run
          (payGeneration "__fee").2).1.isOk = false := by
  decide +kernel

end Code

end Deferred
