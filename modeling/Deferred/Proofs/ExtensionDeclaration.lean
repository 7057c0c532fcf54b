import Deferred.Proofs.TopLevel

/-!
# The declaration of the extension

The extension is a class without fields, which holds the method and nothing else but its words.
Registering the types of the host as its implementers runs no code of a command, since the method
cannot answer for them.
-/

namespace Deferred

open Store Action

namespace Code

variable {site : Site} {origin : Origin} {before after store : Store} {bound : Nat}
  {name methodName : String} {id : ClassId} {method : Value}

/-! ## The class -/

/-- A class is that of an extension: it has no fields, and nothing is on it but its words and the
method, under its own name. -/
structure IsExtension (store : Store) (id : ClassId) (methodName : String) (method : Value) :
    Prop where
  isMeta : Value.metaclass id = ClassId.abstractMeta
  declared : ∃ declared, Entries.get? store.generated id = some declared ∧ declared.fields = none
  attributes : ∀ name value, store.classAttribute? id name = some value →
    name = "__doc__" ∨ name = methodName ∧ value = method

/-- An extension goes by the name that it was declared with. -/
theorem IsExtension.className_eq (isExtension : IsExtension store id methodName method)
    (isFunction : method.classId = ClassId.function) : store.className id = id.name := by
  rw [className, givenName]
  split
  · rename_i text mark isPut
    rcases isExtension.attributes _ _ isPut with isDoc | ⟨-, rfl⟩
    · exact absurd isDoc (by decide)
    · exact absurd isFunction (by decide : ClassId.text ≠ ClassId.function)
  · rfl

theorem run_body_extension {owner : String} {text : Option String} :
    (executeAllInClass site origin owner {}
      (Statement.renamedAll (.inside owner) ((text.map Statement.doc).toList ++ [.pass]))).run
        store =
      (.ok { bindings := (text.map fun words => ("__doc__", Value.ofText words)).toList }, store) := by
  cases text <;> rfl

theorem docStatements_eq (plan : Plan) :
    ∃ text : Option String, plan.docStatements = (text.map Statement.doc).toList := by
  rw [Plan.docStatements]
  cases plan.signature.doc with
  | none => exact ⟨none, rfl⟩
  | some doc =>
    by_cases isEmpty : doc = ""
    · exact ⟨none, if_pos isEmpty⟩
    · exact ⟨some doc, if_neg isEmpty⟩

/-- The declaration of an extension makes a class without fields. -/
theorem makeClass_extension (methodName : String) (method : Value) {plan : Plan} {made : Value}
    (intact : before.Intact)
    (isBase : Comes site [] before (.name (Text.reserved "ABC")) (.cls ClassId.abstract))
    (runs : (makeClass site origin [] name [.name (Text.reserved "ABC")]
      (plan.docStatements ++ [.pass])).run before = (.ok made, after)) :
    ∃ id, made = .cls id ∧ id.name = name ∧ IsExtension after id methodName method ∧
      (∀ place cell, before.cell? place = some cell → after.cell? place = some cell) ∧
      before.Builds site.space [] [] after := by
  obtain ⟨text, isDoc⟩ := docStatements_eq plan
  obtain ⟨body, table, home, ran, settled, declared, reached, ofBody, grows, -, declares,
    decorates⟩ := makeClass_eq_ok [ClassId.abstract] rfl
      (run_evaluateAll (.cons isBase .nil)) rfl (fun _ => rfl) runs
  rw [isDoc, run_body_extension] at ofBody
  cases ofBody
  have isBound : ∀ part value, Entries.get? (declaredBindings
      { bindings := (text.map fun words => ("__doc__", Value.ofText words)).toList } table) part =
        some value → part = "__doc__" := by
    intro part value isThere
    have isMember := Entries.mem_of_get? isThere
    cases text with
    | none => simp [declaredBindings, Entries.putAll] at isMember
    | some words =>
      simp only [declaredBindings, Entries.putAll, Option.map_some, Option.toList_some,
        List.isEmpty_nil, if_true, List.foldl_nil, List.mem_singleton, Prod.mk.injEq] at isMember
      exact isMember.1
  have rooted := intact.of_grows grows
  obtain ⟨rfl, isDeclared⟩ := declared_of_declareClass [ClassId.abstract] rooted rfl (by
    cases text <;> simp [declaredBindings, Entries.putAll, Entries.keys]) declares
  cases decorates
  refine ⟨_, rfl, rfl, ⟨rfl, ⟨_, isDeclared.isDeclared, rfl⟩, ?_⟩,
    fun _ _ isCell => isDeclared.shapes.cell? (grows.cell? isCell), ?_⟩
  · intro part value isPut
    exact .inl (isBound part value (isDeclared.found part value isPut))
  · exact (Builds.closed_of_grows _ grows).trans
      (isDeclared.shapes.builds _ isDeclared.isNew isDeclared.isNumber isDeclared.given)

/-! ## The method -/

theorem callStandard_setattr (machine : Machine) (value content : Value) (part : String) :
    (callStandard machine "setattr" (.ofList [value, .ofText part, content])).run before =
      ((assignAttribute machine.call value part content).bind fun _ => done .absent).run before :=
  rfl

/-- Classes that are meant to be implemented have no say in what is set on them. -/
theorem run_assignAttribute_class {call : Caller} {content : Value} {part : String}
    (intact : before.Intact) (isMeta : Value.metaclass id = ClassId.abstractMeta) :
    (assignAttribute call (.cls id) part content).run before =
      (Action.setClassAttribute id part content).run before := by
  have kept : isKept ClassId.abstractMeta "__setattr__" = true := by decide
  have found := intact.find_eq (by decide) kept
  have member : ({} : Store).find ClassId.abstractMeta "__setattr__" =
      some (.member ClassId.type "__setattr__" .other) := by rfl
  have ofMeta : before.find (Value.cls id).classId "__setattr__" =
      some (.member ClassId.type "__setattr__" .other) := by
    rw [Value.classId, isMeta, found, member]
  rw [assignAttribute, bind_eq, run_bind_of_ok (run_callSpecial?_none (special?_of_member ofMeta))]
  rfl

/-- Setting an attribute of a class, when it does, puts the attribute on the class. -/
theorem setClassAttribute_eq_ok (id : ClassId) {content : Value} {part : String} {answer : Unit}
    (runs : (Action.setClassAttribute id part content).run before = (.ok answer, after)) :
    after = (Change.setClassAttribute id part content).apply before := by
  unfold Action.setClassAttribute at runs
  repeat' split at runs
  all_goals first
    | cases runs; rfl
    | cases runs

/-- The method is put on the extension under its own name. -/
theorem setattr_method (onMachine : site.machine = Action.machine bound) (intact : before.Intact)
    (isFunction : method.classId = ClassId.function)
    (isExtension : IsExtension before id methodName method)
    (isSetter : Comes site [] before (.name (Text.reserved "setattr")) (.builtin "setattr"))
    (isClass : Comes site [] before (.name name) (.cls id))
    (isMethod : Comes site [] before (.name Code.methodName) method)
    (runs : (executeAtTop site origin (.expression ((Expr.name (Text.reserved "setattr")).apply
      [.name name, .text methodName, .name Code.methodName]))).run before = (.ok (), after)) :
    IsExtension after id methodName method ∧ after.cells = before.cells ∧
      before.Builds site.space [] [] after := by
  obtain ⟨answer, evaluated⟩ := run_expression runs
  have isText : Comes site [] before (.text methodName) (.ofText methodName) := rfl
  rw [Expr.apply, evaluate, bind_eq, run_bind_of_ok isSetter, bind_eq,
    run_bind_of_ok (run_evaluateAll (.cons isClass (.cons isText (.cons isMethod .nil))))]
    at evaluated
  simp only [evaluateKeywords, pure_eq_done, bind_eq, done_bind, onMachine] at evaluated
  obtain ⟨depth, -, called⟩ := exists_callStep evaluated
  rw [callStep_builtin] at called
  change (callStandard _ "setattr" (.ofList [.cls id, .ofText methodName, method])).run _ = _
    at called
  rw [callStandard_setattr, run_bind_eq_ok] at called
  obtain ⟨⟨⟩, between, assigns, ends⟩ := called
  cases ends
  rw [run_assignAttribute_class intact isExtension.isMeta] at assigns
  obtain rfl := setClassAttribute_eq_ok _ assigns
  obtain ⟨declared, isDeclared, fieldless⟩ := isExtension.declared
  have isStill : IsExtension ((Change.setClassAttribute id methodName method).apply before) id
      methodName method := by
    refine ⟨isExtension.isMeta, ⟨declared, isDeclared, fieldless⟩, fun part value isPut => ?_⟩
    by_cases same : part = methodName
    · subst same
      rw [classAttribute?_setClassAttribute] at isPut
      exact .inr ⟨rfl, (Option.some.inj isPut).symm⟩
    · rw [classAttribute?_setClassAttribute_of_ne _ _ (.inr same)] at isPut
      exact isExtension.attributes part value isPut
  exact ⟨isStill, rfl, Builds.setClassAttribute method isDeclared (.inl fieldless)
    ((isStill.className_eq isFunction).trans (isExtension.className_eq isFunction).symm)⟩

/-! ## The implementers -/

/-- The types of the host that commands are given to. -/
def receiverTypes : List ClassId :=
  [ClassId.commands, ClassId.entityCommands, ClassId.world, ClassId.entityAccess]

/-- The types of the host are plain classes. -/
theorem metaclass_receiver {target : ClassId} (isTarget : target ∈ receiverTypes) :
    Value.metaclass target = ClassId.type := by
  revert target
  decide

/-- A method has no implementation for types themselves. -/
theorem implementationFor_type {implementations : List (ClassId × Value)} (otherwise : Value)
    (intact : store.Intact) (ofHost : ∀ entry ∈ implementations, entry.1 ∈ receiverTypes) :
    implementationFor store implementations otherwise ClassId.type = otherwise := by
  have above : store.ancestors ClassId.type = [ClassId.type, ClassId.object] := by
    rw [intact.ancestors_eq rfl]
    rfl
  have apart : ∀ target ∈ receiverTypes, target ≠ ClassId.type ∧ target ≠ ClassId.object := by
    decide
  have unkept : Entries.get? implementations ClassId.type = none := by
    rw [Entries.get?_eq_none_iff]
    intro isKey
    obtain ⟨entry, isEntry, same⟩ := List.mem_map.mp isKey
    exact (apart _ (ofHost entry isEntry)).1 same
  have noneAbove : (implementations.find? fun entry => store.isSubclass ClassId.type entry.1) =
      none := by
    rw [List.find?_eq_none]
    intro entry isEntry
    have isHost := ofHost entry isEntry
    have isKnown : isDeclared entry.1 = true := by
      revert isHost
      generalize entry.1 = target
      revert target
      decide
    have undeclared : Entries.get? store.generated entry.1 = none := by
      cases isId : entry.1 with
      | declared home owner => exact intact.declared home owner
      | _ => simp [isId, isDeclared] at isKnown
    obtain ⟨notType, notRoot⟩ := apart _ isHost
    rw [isSubclass, undeclared, above]
    simp [notType, notRoot]
  have filtered : (store.ancestors ClassId.type).filter (· ≠ ClassId.object) = [ClassId.type] := by
    rw [above]
    rfl
  simp only [implementationFor, filtered, List.findSome?_cons, List.findSome?_nil, unkept,
    noneAbove]

/-- Statements that end with raising something come to no answer. -/
theorem raising_never_answers {locals : Bindings} {docs : List Statement} {value : Expr}
    {progress : Progress}
    (areDocs : ∃ text : Option String, docs = (text.map Statement.doc).toList) :
    (executeAll site locals (docs ++ [.raises value])).run before ≠ (.ok progress, after) := by
  have raises : ∀ {last : Progress} {reached : Store},
      (execute site locals (.raises value)).run before ≠ (.ok last, reached) := by
    intro last reached runs
    simp only [execute, bind_eq, run_bind_eq_ok] at runs
    obtain ⟨content, between, -, fault, later, -, fails⟩ := runs
    cases fails
  have alone : (executeAll site locals [.raises value]).run before ≠ (.ok progress, after) := by
    intro runs
    simp only [executeAll, bind_eq, run_bind_eq_ok] at runs
    obtain ⟨last, between, first, -⟩ := runs
    exact raises first
  obtain ⟨text, rfl⟩ := areDocs
  cases text with
  | none => exact alone
  | some words => exact alone

/-- A function that a plan calls where there is no implementation never answers. -/
theorem unsupported_never_answers {plan : Plan} {function answer : Value}
    {parameters : List CallParameter} {space : Ref} {depth : Nat} {arguments : Arguments}
    (runsCode : before.RunsCode function parameters plan.unsupportedBody space) :
    ((Action.machine depth).call function arguments).run before ≠ (.ok answer, after) := by
  intro runs
  obtain ⟨lower, -, called⟩ := exists_callStep runs
  obtain ⟨place, described, rfl, stands, -, does⟩ := runsCode
  simp only [callStep, bind_eq, run_store_bind, stands, callFunction, does, runBody,
    run_bind_eq_ok] at called
  obtain ⟨locals, between, -, progress, later, executes, -⟩ := called
  exact raising_never_answers (docStatements_eq plan) executes

/-- A method called for a type, or for nothing, never answers. -/
theorem method_never_answers {plan : Plan} {place : Ref} {otherwise answer : Value}
    {implementations : List (ClassId × Value)} {parameters : List CallParameter} {space : Ref}
    {depth : Nat} {given : List Value} (intact : before.Intact)
    (dispatches : Dispatches before place implementations otherwise)
    (ofHost : ∀ entry ∈ implementations, entry.1 ∈ receiverTypes)
    (runsCode : before.RunsCode otherwise parameters plan.unsupportedBody space)
    (isGiven : given = [] ∨ ∃ target ∈ receiverTypes, given = [.cls target]) :
    ((Action.machine depth).call (.object ClassId.function place) (.ofList given)).run before ≠
      (.ok answer, after) := by
  intro runs
  obtain ⟨lower, -, called⟩ := exists_callStep runs
  obtain ⟨⟨described, stands, does⟩, -⟩ := dispatches
  simp only [callStep, bind_eq, run_store_bind, stands, callFunction, does, callDispatching]
    at called
  rcases isGiven with rfl | ⟨target, isTarget, rfl⟩
  · cases called
  · have isOther := implementationFor_type otherwise intact ofHost
    simp only [Arguments.ofList, Value.classId, metaclass_receiver isTarget, isOther] at called
    exact unsupported_never_answers runsCode called

theorem run_getAttribute_metaRegister {call : Caller} (intact : store.Intact) :
    (getAttribute call (.cls ClassId.abstractMeta) "register").run store =
      (.ok (.hostMethod ClassId.abstractMeta "register"), store) := by
  have plain : special? store (.cls ClassId.abstractMeta) "__getattribute__" = none := rfl
  have late : lateAttribute? store (.cls ClassId.abstractMeta) "register" = none := rfl
  have kept : isKept ClassId.abstractMeta "register" = true := by decide
  have found := intact.find_eq (by decide) kept
  have member : ({} : Store).find ClassId.abstractMeta "register" =
      some (.member ClassId.abstractMeta "register" (.method [.plain "subclass"])) := by rfl
  have isFound : store.attribute? (.cls ClassId.abstractMeta) "register" =
      some (.hostMethod ClassId.abstractMeta "register") := by
    simp only [Store.attribute?, typeAttribute?, found, member]
    rfl
  rw [run_getAttribute_found plain late isFound]
  rfl

theorem run_callMember_metaRegister (machine : Machine) (parent target : ClassId) :
    (callMember machine ClassId.abstractMeta "register" (.ofList [.cls parent, .cls target])).run
        store = (registerImplementer machine.call parent (.cls target)).run store := rfl

/-- Registering an implementer of an extension, when it does, changes nothing but what the extension
remembers. -/
theorem registerImplementer_eq_ok {call : Caller} {target : ClassId} {answer : Value}
    (isExtension : IsExtension before id methodName method)
    (silent : ∀ given, given = [] ∨ given = [.cls target] → ∀ reply later,
      (call method (.ofList given)).run before ≠ (.ok reply, later))
    (runs : (registerImplementer call id (.cls target)).run before = (.ok answer, after)) :
    after = before ∨ ∃ declared implementers, Entries.get? before.generated id = some declared ∧
      after = (Change.declareClass id { declared with registered := implementers }).apply before := by
  have isMethod : ∀ {part : String} {value : Value}, part ≠ "__doc__" →
      before.classAttribute? id part = some value → value = method := by
    intro part value notDoc isPut
    rcases isExtension.attributes part value isPut with isDoc | ⟨-, same⟩
    · exact absurd isDoc notDoc
    · exact same
  have ofHook : ∀ {told : Bool} {later : Store},
      (saysImplemented call id (.cls target)).run before = (.ok told, later) →
      told = false ∧ later = before := by
    intro told later asks
    simp only [saysImplemented, bind_eq, run_store_bind] at asks
    split at asks
    · cases asks
      exact ⟨rfl, rfl⟩
    · rename_i hook isPut
      obtain rfl := isMethod (by decide) isPut
      rw [run_bind_eq_ok] at asks
      obtain ⟨reply, between, calls, -⟩ := asks
      exact absurd calls (silent _ (.inr rfl) reply between)
  have ofCheck : ∀ {told : Bool} {later : Store},
      (isImplemented call id target).run before = (.ok told, later) → later = before := by
    intro told later asks
    simp only [isImplemented, bind_eq, run_store_bind] at asks
    split at asks
    · cases asks
    · rw [run_bind_eq_ok] at asks
      obtain ⟨hooked, between, first, asks⟩ := asks
      obtain ⟨rfl, rfl⟩ := ofHook first
      simp only [Bool.false_eq_true, if_false] at asks
      split at asks
      · cases asks
        rfl
      · split at asks
        · cases asks
          rfl
        · rename_i lister isPut
          obtain rfl := isMethod (by decide) isPut
          simp only [run_store_bind, run_bind_eq_ok] at asks
          obtain ⟨reply, last, calls, -⟩ := asks
          exact absurd calls (silent _ (.inl rfl) reply last)
  simp only [registerImplementer, bind_eq, run_bind_eq_ok] at runs
  obtain ⟨told, between, checks, runs⟩ := runs
  obtain rfl := ofCheck checks
  split at runs
  · cases runs
    exact .inl rfl
  · rw [run_store_bind] at runs
    split at runs
    · cases runs
    · split at runs
      · rename_i declared isDeclared
        rw [run_perform_bind] at runs
        cases runs
        exact .inr ⟨declared, _, isDeclared, rfl⟩
      · cases runs
        exact .inl rfl

/-- Registering a type of the host as an implementer of the extension. -/
theorem register_implementer {plan : Plan} {place : Ref} {otherwise : Value}
    {implementations : List (ClassId × Value)} {parameters : List CallParameter}
    {target : String} {receiver : ClassId}
    (onMachine : site.machine = Action.machine bound) (intact : before.Intact)
    (isExtension : IsExtension before id methodName (.object ClassId.function place))
    (dispatches : Dispatches before place implementations otherwise)
    (ofHost : ∀ entry ∈ implementations, entry.1 ∈ receiverTypes)
    (runsCode : before.RunsCode otherwise parameters plan.unsupportedBody site.space)
    (isRegistry : Comes site [] before (.name (Text.reserved "ABCMeta"))
      (.cls ClassId.abstractMeta))
    (isClass : Comes site [] before (.name name) (.cls id))
    (isReceiver : receiver ∈ receiverTypes)
    (isTarget : Comes site [] before (.name target) (.cls receiver))
    (runs : (executeAtTop site origin (.expression
      ((Expr.name (Text.reserved "ABCMeta")).send "register" [.name name, .name target]))).run
        before = (.ok (), after)) :
    IsExtension after id methodName (.object ClassId.function place) ∧
      Dispatches after place implementations otherwise ∧
      before.Builds site.space [] [] after := by
  obtain ⟨answer, evaluated⟩ := run_expression runs
  have ofMember : (evaluate site []
      (.member (.name (Text.reserved "ABCMeta")) "register")).run before =
        (.ok (.hostMethod ClassId.abstractMeta "register"), before) := by
    rw [evaluate, bind_eq, run_bind_of_ok isRegistry, run_getAttribute_metaRegister intact]
  rw [Expr.send, evaluate, bind_eq, run_bind_of_ok ofMember, bind_eq,
    run_bind_of_ok (run_evaluateAll (.cons isClass (.cons isTarget .nil)))] at evaluated
  simp only [evaluateKeywords, pure_eq_done, bind_eq, done_bind, onMachine] at evaluated
  obtain ⟨depth, -, called⟩ := exists_callStep evaluated
  rw [callStep_hostMethod] at called
  change (callMember _ _ _ (.ofList [.cls id, .cls receiver])).run _ = _ at called
  rw [run_callMember_metaRegister] at called
  have silent : ∀ given, given = [] ∨ given = [.cls receiver] → ∀ reply later,
      ((Action.machine depth).call (.object ClassId.function place) (.ofList given)).run before ≠
        (.ok reply, later) := by
    intro given isGiven reply later
    refine method_never_answers intact dispatches ofHost runsCode ?_
    rcases isGiven with rfl | rfl
    · exact .inl rfl
    · exact .inr ⟨receiver, isReceiver, rfl⟩
  rcases registerImplementer_eq_ok isExtension silent called with
    rfl | ⟨declared, implementers, isDeclared, rfl⟩
  · exact ⟨isExtension, dispatches, .refl _⟩
  · obtain ⟨known, isKnown, fieldless⟩ := isExtension.declared
    obtain rfl : known = declared := by
      rw [isDeclared] at isKnown
      exact (Option.some.inj isKnown).symm
    obtain ⟨number, isNumber, given⟩ := Builds.number?_of_intact intact isDeclared
    refine ⟨⟨isExtension.isMeta, ⟨_, Entries.get?_put_self _ _ _, fieldless⟩,
      isExtension.attributes⟩, ⟨dispatches.stands, dispatches.open_⟩, ?_⟩
    refine Builds.declareClass isNumber (Nat.le_of_lt given) ?_
    intro old isOld
    rw [isDeclared] at isOld
    cases isOld
    exact ⟨rfl, rfl, rfl⟩

end Code

end Deferred
