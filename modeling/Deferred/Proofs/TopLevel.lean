import Deferred.Proofs.RecordDeclaration

/-!
# Statements at the top

What a statement at the top of a text leaves in the space around it: a name for what was evaluated,
for a function that runs its code, or for a function that dispatches.  An implementation that is
registered with a dispatching function changes this function and no other.
-/

namespace Deferred

open Store Action

/-! ## What generated code relies on -/

/-- Functions do what they did, records stay what they are, and the host is untouched. -/
structure Store.Keeps (before after : Store) : Prop where
  functions : ∀ place function, before.object? place = some (.function function) →
    ∃ changed, after.object? place = some (.function changed) ∧
      changed.parameters = function.parameters ∧ changed.body = function.body
  declared : ∀ id declared, Entries.get? before.generated id = some declared →
    ∃ again, Entries.get? after.generated id = some again ∧
      again.ancestors = declared.ancestors ∧ again.fields = declared.fields ∧
      again.settles = declared.settles
  attributes : ∀ id declared name, Entries.get? before.generated id = some declared →
    declared.fields.isSome → name = "apply" ∨ name ∈ fieldHooks →
    after.classAttribute? id name = before.classAttribute? id name
  present : ∀ id declared name, Entries.get? before.generated id = some declared →
    (id, name) ∉ before.removed → (id, name) ∉ after.removed
  hosts : before.Intact → ∀ home name part,
    after.classAttribute? (.declared home name) part =
      before.classAttribute? (.declared home name) part
  intact : before.Intact → after.Intact

namespace Store.Keeps

variable {before between after : Store}

theorem trans (first : before.Keeps between) (second : between.Keeps after) :
    before.Keeps after where
  functions place function stands := by
    obtain ⟨changed, stood, takes, does⟩ := first.functions place function stands
    obtain ⟨last, stoodToo, takesToo, doesToo⟩ := second.functions place changed stood
    exact ⟨last, stoodToo, takesToo.trans takes, doesToo.trans does⟩
  declared id declared isDeclared := by
    obtain ⟨middle, isMiddle, above, fields, settles⟩ := first.declared id declared isDeclared
    obtain ⟨last, isLast, aboveToo, fieldsToo, settlesToo⟩ := second.declared id middle isMiddle
    exact ⟨last, isLast, aboveToo.trans above, fieldsToo.trans fields, settlesToo.trans settles⟩
  attributes id declared name isDeclared isRecord reliedOn := by
    obtain ⟨middle, isMiddle, -, fields, -⟩ := first.declared id declared isDeclared
    rw [second.attributes id middle name isMiddle (by rw [fields]; exact isRecord) reliedOn,
      first.attributes id declared name isDeclared isRecord reliedOn]
  present id declared name isDeclared isPresent := by
    obtain ⟨middle, isMiddle, -⟩ := first.declared id declared isDeclared
    exact second.present id middle name isMiddle
      (first.present id declared name isDeclared isPresent)
  hosts intact home name part := by
    rw [second.hosts (first.intact intact), first.hosts intact]
  intact intact := second.intact (first.intact intact)

theorem of_grows (grows : before.Grows after) : before.Keeps after where
  functions _ function stands := ⟨function, grows.object? stands, rfl, rfl⟩
  declared _ declared isDeclared := by
    rw [grows.generated_eq]
    exact ⟨declared, isDeclared, rfl, rfl, rfl⟩
  attributes id _ name _ _ _ := grows.classAttribute?_eq id name
  present id _ name _ isPresent := by
    rw [grows.removed_eq]
    exact isPresent
  hosts _ _ _ part := grows.classAttribute?_eq _ part
  intact intact := intact.of_grows grows

theorem of_builds {space : Ref} {written : List String}
    (builds : before.Builds space written [] after) : before.Keeps after where
  functions place function stands := builds.functions place function (by simp) stands
  declared := builds.declared
  attributes id declared name isDeclared isRecord reliedOn := by
    refine builds.attributes id declared name isDeclared isRecord ?_
    rintro rfl
    revert reliedOn
    decide
  present := builds.present
  hosts := builds.hosts
  intact := builds.intact

theorem runsCode (keeps : before.Keeps after) {value : Value}
    {parameters : List CallParameter} {body : List Code.Statement} {space : Ref}
    (runs : before.RunsCode value parameters body space) :
    after.RunsCode value parameters body space := by
  obtain ⟨place, function, isFunction, stands, takes, does⟩ := runs
  obtain ⟨changed, stood, takesToo, doesToo⟩ := keeps.functions place function stands
  exact ⟨place, changed, isFunction, stood, takesToo.trans takes, doesToo.trans does⟩

/-- A class of records stays the record of its plan. -/
theorem recordOf (keeps : before.Keeps after) {plan : Plan} {id : ClassId} {space : Ref}
    {own : List RecordField} (holds : Code.RecordOf before plan id space own) :
    Code.RecordOf after plan id space own := by
  obtain ⟨declared, isGeneric, isDeclared, above, fields, settles⟩ := holds.record.declared
  obtain ⟨again, isAgain, aboveToo, fieldsToo, settlesToo⟩ := keeps.declared id declared isDeclared
  have isRecord : declared.fields.isSome := by rw [fields]; rfl
  refine ⟨⟨holds.record.isRecord, holds.record.isBase, ⟨again, isGeneric, isAgain,
    aboveToo.trans above, fieldsToo.trans fields, settlesToo.trans settles⟩, ?_⟩, holds.names,
    holds.factories, ?_, ?_⟩
  · exact fun name => keeps.present id declared name isDeclared (holds.record.present name)
  · intro hook isHook
    rw [keeps.attributes id declared hook isDeclared isRecord (.inr isHook),
      holds.hooks hook isHook]
  · obtain ⟨function, isPut, runs⟩ := holds.applies
    refine ⟨function, ?_, keeps.runsCode runs⟩
    rw [keeps.attributes id declared "apply" isDeclared isRecord (.inl rfl), isPut]

end Store.Keeps

/-! ## Spaces -/

/-- A place holds a space of names. -/
def Store.IsSpace (store : Store) (space : Ref) : Prop :=
  ∃ bound, store.object? space = some (.space bound)

namespace Store

variable {before after store : Store} {space : Ref} {written : List String} {opened : List Ref}

theorem names_of_object? {bound : Bindings} (stands : store.object? space = some (.space bound)) :
    store.names space = bound := by
  rw [names, stands]

theorem get?_setName (isSpace : store.IsSpace space) (name : String) (value : Value) :
    Entries.get? (((Change.setName space name value).apply store).names space) name =
      some value := by
  obtain ⟨bound, stands⟩ := isSpace
  have stood : ((Change.setName space name value).apply store).object? space =
      some (.space (Entries.put bound name value)) := by
    rw [Change.apply, object?_modifyObject, stands]
    rfl
  rw [names_of_object? stood, Entries.get?_put_self]

namespace Builds

theorem isSpace (builds : before.Builds space written opened after)
    (isSpace : before.IsSpace space) : after.IsSpace space := by
  obtain ⟨bound, stands⟩ := isSpace
  obtain ⟨more, stood, -⟩ := builds.names bound stands
  exact ⟨more, stood⟩

/-- Names that are not written keep their meaning. -/
theorem get?_names (builds : before.Builds space written opened after)
    (isSpace : before.IsSpace space) {name : String} (unwritten : name ∉ written) :
    Entries.get? (after.names space) name = Entries.get? (before.names space) name := by
  obtain ⟨bound, stands⟩ := isSpace
  obtain ⟨more, stood, same⟩ := builds.names bound stands
  rw [names_of_object? stands, names_of_object? stood, same name unwritten]

/-- Changes of functions that were not there before change no function that was. -/
theorem close (builds : before.Builds space written opened after)
    (isNew : ∀ place ∈ opened, before.cells.size ≤ place) :
    before.Builds space written [] after :=
  { builds with
    functions := fun place function _ stands =>
      builds.functions place function
        (fun isOpen => Nat.not_lt.mpr (isNew place isOpen) (lt_size_of_object? stands)) stands }

theorem runsCode (builds : before.Builds space written [] after) {value : Value}
    {parameters : List CallParameter} {body : List Code.Statement} {around : Ref}
    (runs : before.RunsCode value parameters body around) :
    after.RunsCode value parameters body around :=
  (Keeps.of_builds builds).runsCode runs

end Builds

end Store

namespace Code

variable {site : Site} {origin : Origin} {before after : Store} {bound : Nat} {name : String}

theorem Binds.of_builds {written : List String} {opened : List Ref} {uses : List Use}
    (binds : Binds before site.space uses)
    (builds : before.Builds site.space written opened after) (isSpace : before.IsSpace site.space)
    (unwritten : ∀ use ∈ uses, Text.reserved use.1 ∉ written) : Binds after site.space uses := by
  intro use isUse
  rw [builds.get?_names isSpace (unwritten use isUse), binds use isUse]

/-! ## Names -/

theorem run_assign {expr : Expr} {value : Value} (comes : Comes site [] before expr value) :
    (executeAtTop site origin (.assign name expr)).run before =
      (.ok (), (Change.setName site.space name value).apply before) := by
  rw [executeAtTop, bind_eq, run_bind_of_ok comes]
  rfl

theorem run_expression {expr : Expr}
    (runs : (executeAtTop site origin (.expression expr)).run before = (.ok (), after)) :
    ∃ value, (evaluate site [] expr).run before = (.ok value, after) := by
  rw [executeAtTop, bind_eq, run_bind_eq_ok] at runs
  obtain ⟨value, between, comes, ends⟩ := runs
  cases ends
  exact ⟨value, comes⟩

/-- Binding a name among those that are known only to the code. -/
structure Bound (site : Site) (name : String) (value : Value) (opened : List Ref)
    (before after : Store) : Prop where
  means : Entries.get? (after.names site.space) name = some value
  builds : before.Builds site.space [name] opened after

theorem bound_setName {value : Value} {opened : List Ref} {between : Store}
    (builds : before.Builds site.space [] opened between) (isSpace : before.IsSpace site.space) :
    Bound site name value opened before
      ((Change.setName site.space name value).apply between) where
  means := get?_setName (builds.isSpace isSpace) name value
  builds := by
    simpa using builds.trans (Builds.setName _ between name value)

/-! ## Functions -/

/-- What stands in the store once a definition has made its function. -/
structure Makes (site : Site) (parameters : List CallParameter) (body : List Statement)
    (function : Value) (before after : Store) : Prop where
  runs : after.RunsCode function parameters body site.space
  grows : before.Grows after
  isNew : ∃ place, function = .object ClassId.function place ∧ before.cells.size ≤ place ∧
    after.cells.size = place + 1
  unmarked : after.attributesOf function = []

/-- A definition at the top makes a function, applies the decorators to it and binds the result. -/
theorem define_eq_ok {decorators : List Expr} {given : List Value} {items : List ParameterItem}
    {body : List Statement} {parameters : List CallParameter} {decorated : Store}
    (ofDecorators : (evaluateAll site [] decorators).run before = (.ok given, decorated))
    (declared : (parametersOf site [] false items).run decorated = (.ok parameters, decorated))
    (runs : (executeAtTop site origin (.define decorators name items body)).run before =
      (.ok (), after)) :
    ∃ function made value reached, Makes site parameters body function decorated made ∧
      (decorate site.machine function given).run made = (.ok value, reached) ∧
      after = (Change.setName site.space name value).apply reached := by
  obtain ⟨function, takes, does, makes⟩ := run_makeFunction origin none name body
    ofDecorators declared
  rw [executeAtTop, bind_eq, run_bind_eq_ok] at runs
  obtain ⟨value, reached, made, ends⟩ := runs
  cases ends
  rw [makes] at made
  have first := Grows.allocate decorated (.dict []) []
  have grown := first.trans (Grows.allocate _ (.function function) [])
  have size := size_allocate decorated (.dict []) []
  refine ⟨_, _, value, reached,
    ⟨?_, grown, ⟨decorated.cells.size + 1, rfl, Nat.le_succ _, ?_⟩, ?_⟩, made, rfl⟩
  · rw [← size]
    exact runsCode_allocate _ takes does
  · rw [size_allocate, size]
  · rw [← size]
    exact attributesOf_allocate _ _ _ _

/-- A value is a function that was made after a space. -/
def IsAfter (space : Ref) (function : Value) : Prop :=
  ∃ place, function = .object ClassId.function place ∧ space < place

theorem Makes.isAfter {parameters : List CallParameter} {body : List Statement} {function : Value}
    (makes : Makes site parameters body function before after)
    (isSpace : before.IsSpace site.space) : IsAfter site.space function := by
  obtain ⟨place, isFunction, isLate, -⟩ := makes.isNew
  obtain ⟨bound, stands⟩ := isSpace
  exact ⟨place, isFunction, Nat.lt_of_lt_of_le (lt_size_of_object? stands) isLate⟩

/-- A definition without decorators binds a function that runs its code. -/
theorem define_plain {items : List ParameterItem} {body : List Statement}
    {parameters : List CallParameter} (isSpace : before.IsSpace site.space)
    (declared : (parametersOf site [] false items).run before = (.ok parameters, before))
    (runs : (executeAtTop site origin (.define [] name items body)).run before =
      (.ok (), after)) :
    ∃ function, Bound site name function [] before after ∧ IsAfter site.space function ∧
      after.RunsCode function parameters body site.space := by
  obtain ⟨function, made, value, reached, makes, decorates, rfl⟩ :=
    define_eq_ok (show (evaluateAll site [] []).run before = (.ok [], before) from rfl) declared runs
  cases decorates
  refine ⟨function, bound_setName (.of_grows makes.grows) isSpace, makes.isAfter isSpace, ?_⟩
  exact (Builds.setName _ made name function).runsCode makes.runs

/-! ## Dispatching functions -/

/-- A value is a function that chooses among implementations, and that others can be registered
with. -/
structure Dispatches (store : Store) (place : Ref) (implementations : List (ClassId × Value))
    (otherwise : Value) : Prop where
  stands : ∃ function, store.object? place = some (.function function) ∧
    function.body = .dispatch implementations otherwise
  open_ : store.ownAttribute? (.object ClassId.function place) "register" = none

theorem Dispatches.lt_size {store : Store} {place : Ref} {implementations : List (ClassId × Value)}
    {otherwise : Value} (dispatches : Dispatches store place implementations otherwise) :
    place < store.cells.size := by
  obtain ⟨function, stands, -⟩ := dispatches.stands
  exact lt_size_of_object? stands

theorem Dispatches.space_ne {store : Store} {place space : Ref}
    {implementations : List (ClassId × Value)} {otherwise : Value}
    (dispatches : Dispatches store place implementations otherwise) (isSpace : store.IsSpace space) :
    space ≠ place := by
  rintro rfl
  obtain ⟨⟨function, stands, -⟩, -⟩ := dispatches
  obtain ⟨bound, isSpace⟩ := isSpace
  rw [isSpace] at stands
  cases stands

/-- A dispatching function is one as long as its cell stays what it is. -/
theorem Dispatches.of_cell {place : Ref} {implementations : List (ClassId × Value)}
    {otherwise : Value} (dispatches : Dispatches before place implementations otherwise)
    (kept : ∀ cell, before.cell? place = some cell → after.cell? place = some cell) :
    Dispatches after place implementations otherwise := by
  obtain ⟨⟨function, stands, does⟩, isOpen⟩ := dispatches
  obtain ⟨cell, isCell, isObject⟩ := Option.map_eq_some_iff.mp stands
  refine ⟨⟨function, ?_, does⟩, ?_⟩
  · rw [object?, kept cell isCell, Option.map_some, isObject]
  · rw [ownAttribute?, attributesOf, kept cell isCell]
    rwa [ownAttribute?, attributesOf, isCell] at isOpen

theorem Dispatches.of_grows {place : Ref} {implementations : List (ClassId × Value)}
    {otherwise : Value} (dispatches : Dispatches before place implementations otherwise)
    (grows : before.Grows after) : Dispatches after place implementations otherwise :=
  dispatches.of_cell fun _ isCell => grows.cell? isCell

theorem Dispatches.setName {place : Ref} {implementations : List (ClassId × Value)}
    {otherwise : Value} (dispatches : Dispatches before place implementations otherwise)
    (isSpace : before.IsSpace site.space) (value : Value) :
    Dispatches ((Change.setName site.space name value).apply before) place implementations
      otherwise :=
  dispatches.of_cell fun _ isCell =>
    (cell?_modifyCell_of_ne _ (dispatches.space_ne isSpace).symm).trans isCell

theorem callStandard_singledispatch (machine : Machine) (function : Value) :
    (callStandard machine "singledispatch" (.ofList [function])).run before =
      (dispatching function).run before := rfl

/-- The first function of a method becomes the one that is called where there is no
implementation. -/
theorem define_dispatching {items : List ParameterItem} {body : List Statement}
    {parameters : List CallParameter} (isSpace : before.IsSpace site.space)
    (onMachine : site.machine = Action.machine bound)
    (isDecorator : Comes site [] before (.name (Text.reserved "singledispatch"))
      (.builtin "singledispatch"))
    (declared : (parametersOf site [] false items).run before = (.ok parameters, before))
    (runs : (executeAtTop site origin
      (.define [.name (Text.reserved "singledispatch")] name items body)).run before =
      (.ok (), after)) :
    ∃ place function, Bound site name (.object ClassId.function place) [] before after ∧
      before.cells.size ≤ place ∧ Dispatches after place [] function ∧
      after.RunsCode function parameters body site.space := by
  obtain ⟨function, made, value, reached, makes, decorates, rfl⟩ :=
    define_eq_ok (run_evaluateAll (.cons isDecorator .nil)) declared runs
  simp only [decorate, bind_eq, pure_eq_done, done_bind, onMachine] at decorates
  obtain ⟨depth, -, called⟩ := exists_callStep decorates
  have described := makes.runs
  obtain ⟨home, content, rfl, stands, -, -⟩ := described
  have isFunction : made.functionOf? (.object ClassId.function home) = some content := by
    simp [functionOf?, objectOf?, stands]
  rw [callStep_builtin, callStandard_singledispatch] at called
  simp only [dispatching, bind_eq, run_store_bind, isFunction, makes.unmarked] at called
  cases called
  have grown := Grows.allocate made
    (.function { content with body := .dispatch [] (.object ClassId.function home) })
    (Entries.put [] "__wrapped__" (.object ClassId.function home))
  have isSpaceToo := (Builds.closed_of_grows _ (makes.grows.trans grown)).isSpace isSpace
  refine ⟨made.cells.size, .object ClassId.function home,
    bound_setName (.of_grows (makes.grows.trans grown)) isSpace, makes.grows.size_le, ?_, ?_⟩
  · refine Dispatches.setName ⟨⟨_, object?_allocate _ _ _, rfl⟩, ?_⟩ isSpaceToo _
    rw [ownAttribute?, attributesOf_allocate]
    rfl
  · exact (Builds.setName _ _ name _).runsCode (makes.runs.of_grows grown)

/-! ## Registering implementations -/

/-- Reading `register` of a dispatching function leads to what registers with it. -/
theorem run_getAttribute_register {call : Caller} {place : Ref}
    {implementations : List (ClassId × Value)} {otherwise : Value}
    (dispatches : Dispatches before place implementations otherwise) :
    (getAttribute call (.object ClassId.function place) "register").run before =
      (.ok (.bound (.object ClassId.function place) (.builtin "register") before.nextMark),
        Change.takeMark.apply before) := by
  obtain ⟨⟨function, stands, does⟩, isOpen⟩ := dispatches
  have plain : special? before (.object ClassId.function place) "__getattribute__" = none := rfl
  have late : lateAttribute? before (.object ClassId.function place) "register" =
      some (fresh (.bound (.object ClassId.function place) (.builtin "register"))) := by
    rw [lateAttribute?, isOpen]
    simp [fieldAttribute?, objectOf?, stands, lateObjectAttribute?, does]
  simp only [getAttribute, Action.attribute?, callSpecial?, plainAttribute?, bind_eq, pure_eq_done,
    run_store_bind, Action.bind_assoc, plain, late, done_bind, run_fresh_bind, orFail_some,
    run_done]

theorem run_evaluate_register {place : Ref} {implementations : List (ClassId × Value)}
    {otherwise : Value} {methodName : String}
    (isMethod : Comes site [] before (.name methodName) (.object ClassId.function place))
    (dispatches : Dispatches before place implementations otherwise) :
    (evaluate site [] (.member (.name methodName) "register")).run before =
      (.ok (.bound (.object ClassId.function place) (.builtin "register") before.nextMark),
        Change.takeMark.apply before) := by
  rw [evaluate, bind_eq, run_bind_of_ok isMethod, run_getAttribute_register dispatches]

theorem callStandard_register (machine : Machine) (dispatcher : Value) (id : ClassId) :
    callStandard machine "register" (.ofList [dispatcher, .cls id]) =
      allocate ClassId.partialCall
        (.partialCall (.bound dispatcher (.builtin "register") 0) [.cls id] []) := rfl

theorem callStandard_register_function (machine : Machine) (dispatcher function : Value)
    (id : ClassId) :
    callStandard machine "register" (.ofList [dispatcher, .cls id, function]) =
      addImplementation dispatcher function [id] := rfl

/-- Asking a dispatching function for what registers an implementation for a class. -/
theorem register_eq_ok {place : Ref} {implementations : List (ClassId × Value)}
    {otherwise value : Value} {methodName target : String} {id : ClassId}
    (onMachine : site.machine = Action.machine bound)
    (isMethod : Comes site [] before (.name methodName) (.object ClassId.function place))
    (isTarget : ∀ later, before.Grows later → Comes site [] later (.name target) (.cls id))
    (dispatches : Dispatches before place implementations otherwise)
    (runs : (evaluate site [] ((Expr.name methodName).send "register" [.name target])).run before =
      (.ok value, after)) :
    before.Grows after ∧ ∃ home, value = .object ClassId.partialCall home ∧
      after.object? home = some (.partialCall
        (.bound (.object ClassId.function place) (.builtin "register") 0) [.cls id] []) := by
  have marked := Grows.takeMark before
  have ofTarget : (evaluateAll site [] [.name target]).run (Change.takeMark.apply before) =
      (.ok [.cls id], Change.takeMark.apply before) :=
    run_evaluateAll (.cons (isTarget _ marked) .nil)
  rw [Expr.send, evaluate, bind_eq, run_bind_of_ok (run_evaluate_register isMethod dispatches)]
    at runs
  simp only [bind_eq] at runs
  rw [run_bind_of_ok ofTarget] at runs
  simp only [evaluateKeywords, pure_eq_done, done_bind, onMachine] at runs
  obtain ⟨depth, -, called⟩ := exists_callStep runs
  rw [callStep_bound] at called
  obtain ⟨lower, -, calledToo⟩ := exists_callStep called
  rw [callStep_builtin] at calledToo
  change (callStandard _ "register" (.ofList [.object ClassId.function place, .cls id])).run _ = _
    at calledToo
  rw [callStandard_register] at calledToo
  cases calledToo
  exact ⟨marked.trans (Grows.allocate _ _ _), _, rfl, object?_allocate _ _ _⟩

/-- Adding an implementation to a dispatching function changes this function. -/
theorem addImplementation_eq_ok {place : Ref} {implementations : List (ClassId × Value)}
    {otherwise function value : Value} {id : ClassId} (isNew : site.space < place)
    (dispatches : Dispatches before place implementations otherwise)
    (runs : (addImplementation (.object ClassId.function place) function [id]).run before =
      (.ok value, after)) :
    value = function ∧
      Dispatches after place (Entries.putAll implementations [(id, function)]) otherwise ∧
      before.Builds site.space [] [place] after := by
  obtain ⟨⟨described, stands, does⟩, isOpen⟩ := dispatches
  have isFunction : before.functionOf? (.object ClassId.function place) = some described := by
    simp [functionOf?, objectOf?, stands]
  simp only [addImplementation, bind_eq, run_store_bind, isFunction, does, run_perform_bind,
    pure_eq_done, run_done] at runs
  cases runs
  obtain ⟨cell, isCell, isObject⟩ := Option.map_eq_some_iff.mp stands
  refine ⟨rfl, ⟨⟨{ described with
    body := .dispatch (Entries.putAll implementations [(id, function)]) otherwise }, ?_, rfl⟩, ?_⟩,
    Builds.of_modifyCell isCell isNew ?_⟩
  · rw [Change.apply, object?_modifyObject, stands]
    rfl
  · rw [ownAttribute?, attributesOf, isCell] at isOpen
    rw [Change.apply, modifyObject, ownAttribute?, attributesOf, cell?_modifyCell, isCell]
    exact isOpen
  · exact .inl ⟨described, _, isObject, by rw [isObject], .inl List.mem_cons_self⟩

/-- A definition that is registered with a dispatching function makes an implementation. -/
theorem define_implementation {place : Ref} {implementations : List (ClassId × Value)}
    {otherwise : Value} {methodName target : String} {id : ClassId} {items : List ParameterItem}
    {body : List Statement} {parameters : List CallParameter}
    (isSpace : before.IsSpace site.space) (isNew : site.space < place)
    (onMachine : site.machine = Action.machine bound)
    (isMethod : Comes site [] before (.name methodName) (.object ClassId.function place))
    (isTarget : ∀ later, before.Grows later → Comes site [] later (.name target) (.cls id))
    (dispatches : Dispatches before place implementations otherwise)
    (declared : ∀ later, before.Grows later →
      (parametersOf site [] false items).run later = (.ok parameters, later))
    (runs : (executeAtTop site origin (.define
      [(Expr.name methodName).send "register" [.name target]] name items body)).run before =
      (.ok (), after)) :
    ∃ function, Bound site name function [place] before after ∧ IsAfter site.space function ∧
      Dispatches after place (Entries.putAll implementations [(id, function)]) otherwise ∧
      after.RunsCode function parameters body site.space := by
  have decorators := runs
  simp only [executeAtTop, makeFunction, evaluateAll, bind_eq, bind_assoc, run_bind_eq_ok]
    at decorators
  obtain ⟨partial_, decorated, ofDecorator, -⟩ := decorators
  have ofDecorators : (evaluateAll site []
      [(Expr.name methodName).send "register" [.name target]]).run before =
        (.ok [partial_], decorated) := by
    simp only [evaluateAll, bind_eq, pure_eq_done, done_bind]
    rw [run_bind_of_ok ofDecorator, run_done]
  obtain ⟨grows, home, rfl, waits⟩ :=
    register_eq_ok onMachine isMethod isTarget dispatches ofDecorator
  obtain ⟨function, made, value, reached, makes, decorates, rfl⟩ :=
    define_eq_ok ofDecorators (declared _ grows) runs
  have grown := grows.trans makes.grows
  simp only [decorate, bind_eq, pure_eq_done, done_bind, onMachine] at decorates
  obtain ⟨depth, -, called⟩ := exists_callStep decorates
  simp only [callStep, bind_eq, run_store_bind, makes.grows.object? waits] at called
  obtain ⟨lower, rfl, calledToo⟩ := exists_callStep called
  rw [callStep_bound] at calledToo
  obtain ⟨lowest, -, calledLast⟩ := exists_callStep calledToo
  rw [callStep_builtin] at calledLast
  change (callStandard _ "register"
    (.ofList [.object ClassId.function place, .cls id, function])).run _ = _ at calledLast
  rw [callStandard_register_function] at calledLast
  obtain ⟨rfl, added, builds⟩ :=
    addImplementation_eq_ok isNew (dispatches.of_grows grown) calledLast
  have all : before.Builds site.space [] [place] reached := by
    simpa using (Builds.closed_of_grows _ grown).trans builds
  have isNewFunction : ∀ other ∈ [place], decorated.cells.size > other := by
    intro other isOther
    obtain rfl := List.mem_singleton.mp isOther
    exact Nat.lt_of_lt_of_le dispatches.lt_size grows.size_le
  have isAfter := makes.isAfter
    ((Builds.closed_of_grows _ grows).isSpace isSpace)
  refine ⟨value, bound_setName all isSpace, isAfter, added.setName (all.isSpace isSpace) _, ?_⟩
  refine (Builds.setName _ reached name value).runsCode ?_
  obtain ⟨there, content, rfl, stands, takes, does⟩ := makes.runs
  obtain ⟨known, isKnown, isLate, -⟩ := makes.isNew
  obtain rfl : there = known := (Value.object.inj isKnown).2
  have closed : there ∉ [place] := fun isIn =>
    Nat.not_lt.mpr isLate (isNewFunction there isIn)
  obtain ⟨changed, stood, takesToo, doesToo⟩ := builds.functions there content closed stands
  exact ⟨there, changed, rfl, stood, takesToo.trans takes, doesToo.trans does⟩

end Code

end Deferred
