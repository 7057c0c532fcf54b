import Deferred.Proofs.Building

/-!
# The body of a record class

The body of a record class notes the annotation of every field, in order.  Fields with options are
set to an object that holds the options, and nothing else is bound but the words of the class and
the method that applies a record.
-/

namespace Deferred.Code

open Action Store

variable {site : Site} {locals : Bindings} {store before after : Store} {bound : Nat}

/-! ## Code that only adds to the store -/

theorem onlyAdds_meaning (name : String) : (meaning site locals name).OnlyAdds := by
  apply OnlyAdds.store_bind
  intro store
  cases Entries.get? locals name with
  | some value => exact .done value
  | none =>
    cases Entries.get? (store.names site.space) name with
    | some value => exact .done value
    | none => exact .orFail _ _

theorem onlyAdds_closure (parameters : List String) (body : Expr) :
    (evaluate site locals (.closure parameters body)).OnlyAdds := by
  simp only [evaluate, bind_eq]
  exact .bind (.allocate _ _ _) fun annotations => .allocate _ _ _

/-- The keywords of a call go by the names they are written with. -/
theorem evaluateKeywords_names {keywords : List (String × Expr)} {values : List (String × Value)}
    (runs : (evaluateKeywords site locals keywords).run before = (.ok values, after)) :
    values.map Prod.fst = keywords.map Prod.fst := by
  induction keywords generalizing before values with
  | nil =>
    cases runs
    rfl
  | cons keyword rest ih =>
    simp only [evaluateKeywords, bind_eq, run_bind_eq_ok, pure_eq_done, run_done] at runs
    obtain ⟨value, _, -, others, _, later, made⟩ := runs
    cases made
    rw [List.map_cons, List.map_cons, ih later]

theorem onlyAdds_evaluateKeywords {keywords : List (String × Expr)}
    (each : ∀ keyword ∈ keywords, (evaluate site locals keyword.2).OnlyAdds) :
    (evaluateKeywords site locals keywords).OnlyAdds := by
  induction keywords with
  | nil => exact .done []
  | cons keyword rest ih =>
    simp only [evaluateKeywords, bind_eq]
    refine .bind (each keyword List.mem_cons_self) fun value => ?_
    refine .bind (ih fun other isLater => each other (List.mem_cons_of_mem _ isLater)) ?_
    exact fun others => .done _

/-! ## Options of fields -/

/-- A value holds the options of a field, which has some. -/
def HoldsOptions (store : Store) (field : Field) (value : Value) : Prop :=
  Plan.fieldOptions field ≠ [] ∧
    ∃ place, value = .object ClassId.fieldOptions place ∧ place < store.cells.size ∧
      (store.attributesOf value).map Prod.fst = (Plan.fieldOptions field).map Prod.fst

theorem HoldsOptions.of_grows {field : Field} {value : Value}
    (holds : HoldsOptions before field value) (grows : before.Grows after) :
    HoldsOptions after field value := by
  obtain ⟨hasSome, place, rfl, isOld, options⟩ := holds
  refine ⟨hasSome, place, rfl, Nat.lt_of_lt_of_le isOld grows.size_le, ?_⟩
  rw [grows.attributesOf_eq isOld, options]

theorem onlyAdds_fieldOptions (field : Field) {keyword : String × Expr}
    (isOption : keyword ∈ Plan.fieldOptions field) :
    (evaluate site locals keyword.2).OnlyAdds := by
  simp only [Plan.fieldOptions, List.mem_append] at isOption
  rcases isOption with ofDefault | ofKind
  · split at ofDefault
    · simp at ofDefault
    · split at ofDefault
      · obtain rfl := List.mem_singleton.mp ofDefault
        exact onlyAdds_closure _ _
      · obtain rfl := List.mem_singleton.mp ofDefault
        simp only [evaluate]
        exact onlyAdds_meaning _
  · split at ofKind
    · obtain rfl := List.mem_singleton.mp ofKind
      simp only [evaluate]
      exact onlyAdds_meaning _
    · simp at ofKind

theorem callStandard_field (arguments : Arguments) (machine : Machine) :
    callStandard machine "field" arguments = newFieldOptions arguments.keywords := rfl

/-- What stands behind a field in the body of a class makes an object with the options. -/
theorem fieldValue_holdsOptions {field : Field} {content : Value}
    (hasSome : Plan.fieldOptions field ≠ [])
    (onMachine : site.machine = Action.machine bound)
    (means : Means site locals before (Text.reserved "field") (.builtin "field"))
    (runs : (evaluate site locals
      (.call (.name (Text.reserved "field")) [] (Plan.fieldOptions field))).run before =
        (.ok content, after)) :
    HoldsOptions after field content ∧ before.Grows after := by
  simp only [evaluate, evaluateAll, bind_eq, pure_eq_done, done_bind] at runs
  rw [run_bind_of_ok (run_meaning means), run_bind_eq_ok] at runs
  obtain ⟨keywords, between, given, called⟩ := runs
  have grows : before.Grows between :=
    (onlyAdds_evaluateKeywords fun keyword isOption => onlyAdds_fieldOptions field isOption).grows
      given
  rw [onMachine] at called
  obtain ⟨depth, -, called⟩ := exists_callStep called
  rw [callStep_builtin, callStandard_field, newFieldOptions] at called
  split at called
  · rw [run_allocate] at called
    cases called
    refine ⟨⟨hasSome, _, rfl, ?_, ?_⟩, grows.trans (.allocate _ _ _)⟩
    · rw [size_allocate]
      exact Nat.lt_succ_self _
    · rw [attributesOf_allocate, evaluateKeywords_names given]
  · cases called

/-! ## What the body declares -/

/-- The annotation that is noted for a field. -/
def fieldHint (field : Field) : String × Value :=
  (field.name, .ofText (Text.reserved ("ann_" ++ field.name)))

/-- The body of a class so far: it has noted the annotations of some of the fields, and has bound
nothing but its words and the options of the fields. -/
structure ClassBody.Declares (store : Store) (fields noted : List Field) (body : ClassBody) :
    Prop where
  hints : body.hints = Entries.putAll [] (noted.map fieldHint)
  bound : ∀ name value, Entries.get? body.bindings name = some value →
    (name = "__doc__" ∧ ∃ text, value = .ofText text) ∨
      ∃ field ∈ fields, field.name = name ∧ HoldsOptions store field value
  apart : (Entries.keys body.bindings).Nodup

namespace ClassBody.Declares

variable {fields noted : List Field} {body : ClassBody} {field : Field}

theorem of_grows (declares : Declares before fields noted body) (grows : before.Grows after) :
    Declares after fields noted body where
  hints := declares.hints
  bound name value isBound := by
    rcases declares.bound name value isBound with isDoc | ⟨field, isField, same, holds⟩
    · exact .inl isDoc
    · exact .inr ⟨field, isField, same, holds.of_grows grows⟩
  apart := declares.apart

/-- Nothing is bound under a reserved name. -/
theorem get?_reserved (declares : Declares store fields noted body)
    (free : ∀ field ∈ fields, Text.isReserved field.name = false) (name : String) :
    Entries.get? body.bindings (Text.reserved name) = none := by
  cases isBound : Entries.get? body.bindings (Text.reserved name) with
  | none => rfl
  | some value =>
    have isReserved := Text.isReserved_reserved name
    rcases declares.bound _ _ isBound with ⟨isDoc, -⟩ | ⟨field, isField, same, -⟩
    · rw [isDoc] at isReserved
      exact absurd isReserved (by decide)
    · rw [← same, free field isField] at isReserved
      cases isReserved

/-- Noting the annotation of one more field. -/
theorem annotate {result : ClassBody} (declares : Declares before fields noted body)
    (runs : (Code.annotate body field.name
      (.name (Text.reserved ("ann_" ++ field.name)))).run before = (.ok result, after)) :
    Declares after fields (noted ++ [field]) result ∧ before = after := by
  unfold Code.annotate at runs
  split at runs
  · cases runs
  · rename_i hint isName
    cases isName
    cases runs
    refine ⟨⟨?_, declares.bound, declares.apart⟩, rfl⟩
    rw [List.map_append, List.map_singleton, Entries.putAll_concat, ← declares.hints]
    rfl
  · rename_i notName
    exact absurd rfl (notName _)

/-- Setting a field to its options. -/
theorem put {content : Value} (declares : Declares store fields noted body)
    (isField : field ∈ fields) (holds : HoldsOptions store field content) :
    Declares store fields noted
      { body with bindings := Entries.put body.bindings field.name content } where
  hints := declares.hints
  bound name value isBound := by
    by_cases same : name = field.name
    · subst same
      rw [Entries.get?_put_self] at isBound
      cases isBound
      exact .inr ⟨field, isField, rfl, holds⟩
    · rw [Entries.get?_put_of_ne _ _ same] at isBound
      exact declares.bound name value isBound
  apart := Entries.nodup_keys_put declares.apart

end ClassBody.Declares

/-- What running the body of a record class relies on. -/
structure RecordSite (site : Site) (store : Store) (bound : Nat) (fields : List Field) : Prop where
  onMachine : site.machine = Action.machine bound
  options : (∃ field ∈ fields, Plan.fieldOptions field ≠ []) →
    Entries.get? (store.names site.space) (Text.reserved "field") = some (.builtin "field")
  free : ∀ field ∈ fields, Text.isReserved field.name = false

theorem RecordSite.of_grows {fields : List Field} (stands : RecordSite site before bound fields)
    (grows : before.Grows after) : RecordSite site after bound fields where
  onMachine := stands.onMachine
  options hasSome := grows.name? (stands.options hasSome)
  free := stands.free

/-- The declaration of a field declares the field. -/
theorem declares_fieldStatement {origin : Origin} {owner : String} {fields noted : List Field}
    {field : Field} {body result : ClassBody} (stands : RecordSite site before bound fields)
    (declares : body.Declares before fields noted) (isField : field ∈ fields)
    (runs : (executeInClass site origin owner body (Plan.fieldStatement field)).run before =
      (.ok result, after)) :
    result.Declares after fields (noted ++ [field]) ∧ before.Grows after := by
  by_cases hasNone : Plan.fieldOptions field = []
  · simp only [Plan.fieldStatement, hasNone, List.isEmpty_nil, if_true, executeInClass] at runs
    obtain ⟨declared, rfl⟩ := declares.annotate runs
    exact ⟨declared, .refl _⟩
  · have notEmpty : (Plan.fieldOptions field).isEmpty = false := by
      simpa [List.isEmpty_iff] using hasNone
    have means : Means site body.bindings before (Text.reserved "field") (.builtin "field") :=
      .inr ⟨declares.get?_reserved stands.free "field", stands.options ⟨field, isField, hasNone⟩⟩
    simp only [Plan.fieldStatement, notEmpty, Bool.false_eq_true, if_false, executeInClass, bind_eq,
      run_bind_eq_ok] at runs
    obtain ⟨content, between, made, annotated⟩ := runs
    obtain ⟨holds, grows⟩ := fieldValue_holdsOptions hasNone stands.onMachine means made
    obtain ⟨declared, rfl⟩ := ((declares.of_grows grows).put isField holds).annotate annotated
    exact ⟨declared, grows⟩

/-- The declarations of some fields declare them in turn. -/
theorem declares_fieldStatements {origin : Origin} {owner : String}
    {fields noted remaining : List Field} {rest : List Statement} {body result : ClassBody}
    (stands : RecordSite site before bound fields) (declares : body.Declares before fields noted)
    (within : ∀ field ∈ remaining, field ∈ fields)
    (runs : (executeAllInClass site origin owner body
      (remaining.map Plan.fieldStatement ++ rest)).run before = (.ok result, after)) :
    ∃ declared between, declared.Declares between fields (noted ++ remaining) ∧
      before.Grows between ∧
      (executeAllInClass site origin owner declared rest).run between = (.ok result, after) := by
  induction remaining generalizing before body noted with
  | nil => exact ⟨body, before, by simpa using declares, .refl _, runs⟩
  | cons field others ih =>
    simp only [List.map_cons, List.cons_append, executeAllInClass, bind_eq, run_bind_eq_ok] at runs
    obtain ⟨middle, between, first, later⟩ := runs
    obtain ⟨declared, grows⟩ :=
      declares_fieldStatement stands declares (within field List.mem_cons_self) first
    obtain ⟨last, there, isLast, growsToo, ends⟩ := ih (stands.of_grows grows) declared
      (fun other isLater => within other (List.mem_cons_of_mem _ isLater)) later
    exact ⟨last, there, by simpa using isLast, grows.trans growsToo, ends⟩

/-- The names that the method takes which applies a record. -/
def applyNames (forEntity : Bool) : List String :=
  if forEntity then ["self", "entity", "world"] else ["self", "world"]

/-- The words of a command are the words of its class. -/
theorem declares_docStatements (site : Site) (origin : Origin) (owner : String) (plan : Plan)
    (store : Store) (fields : List Field) :
    ∃ body : ClassBody, body.Declares store fields [] ∧ ∀ rest,
      executeAllInClass site origin owner {} (plan.docStatements ++ rest) =
        executeAllInClass site origin owner body rest := by
  have empty : (({} : ClassBody)).Declares store fields [] :=
    ⟨rfl, by simp [Entries.get?], by simp [Entries.keys]⟩
  rw [Plan.docStatements]
  split
  · rename_i doc _
    split
    · exact ⟨{}, empty, fun _ => rfl⟩
    · refine ⟨{ bindings := [("__doc__", .ofText doc)] }, ⟨rfl, ?_, by simp [Entries.keys]⟩,
        fun _ => rfl⟩
      intro name value isBound
      simp only [Entries.get?, beq_iff_eq] at isBound
      split at isBound
      · rename_i same
        cases isBound
        exact .inl ⟨same.symm, doc, rfl⟩
      · cases isBound
  · exact ⟨{}, empty, fun _ => rfl⟩

/-- The last statement of the body of a record class defines the method that applies a record. -/
theorem runsCode_defineApply {origin : Origin} {owner : String} {plan : Plan}
    {body result : ClassBody}
    (runs : (executeAllInClass site origin owner body
      [.define [] "apply" plan.applyParameters plan.applyBody]).run before = (.ok result, after)) :
    ∃ function, after.RunsCode function ((applyNames plan.forEntity).map .plain) plan.applyBody
        site.space ∧
      result = { body with bindings := Entries.put body.bindings "apply" function } ∧
      before.Grows after := by
  have declared : (parametersOf site body.bindings false
      ((applyNames plan.forEntity).map .required ++ [])).run before =
        (.ok ((applyNames plan.forEntity).map .plain ++ []), before) :=
    run_parametersOf_leading _ rfl rfl
  obtain ⟨function, takes, does, made⟩ := run_makeFunction origin (some owner) "apply"
    plan.applyBody (show (evaluateAll site body.bindings []).run before = (.ok [], before) from rfl)
    declared
  simp only [List.append_nil] at made takes
  simp only [executeAllInClass, executeInClass, bind_eq, pure_eq_done, bind_assoc] at runs
  rw [Plan.applyParameters, ← applyNames, run_bind_of_ok made] at runs
  cases runs
  refine ⟨_, ?_, rfl, (Grows.allocate before _ _).trans (.allocate _ _ _)⟩
  have stands := runsCode_allocate ((Change.allocate (.dict []) []).apply before) takes does
  rwa [size_allocate] at stands

/-- What the body of a record class comes to: the annotations of the fields, the words of the class
and the options of the fields, and the method that applies a record. -/
theorem declares_recordBody {origin : Origin} {owner : String} {plan : Plan} {result : ClassBody}
    (stands : RecordSite site before bound plan.fields)
    (runs : (executeAllInClass site origin owner {} plan.recordBody).run before =
      (.ok result, after)) :
    ∃ (body : ClassBody) (function : Value), body.Declares after plan.fields plan.fields ∧
      result = { body with bindings := Entries.put body.bindings "apply" function } ∧
      after.RunsCode function ((applyNames plan.forEntity).map .plain) plan.applyBody site.space ∧
      before.Grows after := by
  rw [Plan.recordBody, List.append_assoc, List.append_assoc] at runs
  obtain ⟨first, declared, words⟩ :=
    declares_docStatements site origin owner plan before plan.fields
  rw [words] at runs
  obtain ⟨body, between, isBody, grows, runs⟩ :=
    declares_fieldStatements stands declared (fun _ isField => isField) runs
  have defines : (executeAllInClass site origin owner body
      [.define [] "apply" plan.applyParameters plan.applyBody]).run between =
        (.ok result, after) := by
    split at runs
    · exact runs
    · exact runs
  obtain ⟨function, runsCode, isResult, growsToo⟩ := runsCode_defineApply defines
  exact ⟨body, function, by simpa using isBody.of_grows growsToo, isResult, runsCode,
    grows.trans growsToo⟩

end Deferred.Code
