import Deferred.Generation.Assemble
import Deferred.Proofs.Extending

/-!
# What a generation carries

A generation that comes to its end carries a record class, a public routine and, unless it is left
out, a method with its implementations.  They go by other names than those that the code gave them,
but they take the same arguments and run the same code, among everything that the command uses.
-/

namespace Deferred

open Store Action

/-! ## Stores in which generated code still works -/

/-- What generated code relies on stays what it was from one store to another, the names that it is
run among included. -/
structure Store.Follows (before after : Store) : Prop where
  keeps : before.Keeps after
  spaces : ∀ place bound, before.object? place = some (.space bound) →
    after.object? place = some (.space bound)

namespace Store.Follows

variable {before between after : Store}

theorem trans (first : before.Follows between) (second : between.Follows after) :
    before.Follows after where
  keeps := first.keeps.trans second.keeps
  spaces place bound stands := second.spaces place bound (first.spaces place bound stands)

theorem of_grows (grows : before.Grows after) : before.Follows after where
  keeps := .of_grows grows
  spaces _ _ stands := grows.object? stands

theorem refl (store : Store) : store.Follows store := .of_grows (.refl store)

/-- Generating another command leaves alone what a generated command relies on. -/
theorem of_builds {space : Ref} {written : List String}
    (builds : before.Builds space written [] after) (isNew : before.cells.size ≤ space) :
    before.Follows after where
  keeps := .of_builds builds
  spaces place bound stands := by
    have apart : place ≠ space := by
      rintro rfl
      exact Nat.not_lt.mpr isNew (lt_size_of_object? stands)
    exact builds.objects place _ apart stands (by simp)

theorem isSpace (follows : before.Follows after) {space : Ref} (isSpace : before.IsSpace space) :
    after.IsSpace space := by
  obtain ⟨bound, stands⟩ := isSpace
  exact ⟨bound, follows.spaces space bound stands⟩

theorem names_eq (follows : before.Follows after) {space : Ref} (isSpace : before.IsSpace space) :
    after.names space = before.names space := by
  obtain ⟨bound, stands⟩ := isSpace
  rw [names_of_object? stands, names_of_object? (follows.spaces space bound stands)]

end Store.Follows

/-- The attributes of an object stay what they were from one store to another. -/
def Store.Spares (before : Store) (place : Ref) (after : Store) : Prop :=
  ∀ cell, before.cell? place = some cell →
    ∃ again, after.cell? place = some again ∧ again.attributes = cell.attributes

namespace Store.Spares

variable {before between after store : Store} {place other : Ref}

theorem trans (first : before.Spares place between) (second : between.Spares place after) :
    before.Spares place after := by
  intro cell isCell
  obtain ⟨middle, isMiddle, same⟩ := first cell isCell
  obtain ⟨again, isAgain, sameToo⟩ := second middle isMiddle
  exact ⟨again, isAgain, sameToo.trans same⟩

theorem of_grows (grows : before.Grows after) : before.Spares place after :=
  fun cell isCell => ⟨cell, grows.cell? isCell, rfl⟩

theorem modifyCell (change : Cell → Cell)
    (spared : place ≠ other ∨ ∀ cell, (change cell).attributes = cell.attributes) :
    store.Spares place (store.modifyCell other change) := by
  intro cell isCell
  by_cases same : place = other
  · subst same
    refine ⟨change cell, ?_, (spared.resolve_left fun apart => apart rfl) cell⟩
    rw [cell?_modifyCell, isCell]
    rfl
  · exact ⟨cell, by rw [cell?_modifyCell_of_ne change same, isCell], rfl⟩

theorem ownAttribute?_eq (spares : before.Spares place after) {id : ClassId} {name : String}
    {value : Value} (has : before.ownAttribute? (.object id place) name = some value) :
    after.ownAttribute? (.object id place) name = some value := by
  rw [ownAttribute?, attributesOf] at has ⊢
  cases isCell : before.cell? place with
  | none =>
    rw [isCell] at has
    cases has
  | some cell =>
    obtain ⟨again, isAgain, same⟩ := spares cell isCell
    rw [isCell] at has
    rw [isAgain, Option.map_some, same]
    exact has

end Store.Spares

namespace Code

/-- The names of a command are written so that they stay what they are: in their normal spelling,
and none of them private to the record. -/
structure KeepsNames (plan : Plan) : Prop where
  normal : Statement.renamedAll .normal plan.code = plan.code
  inside : Statement.renamedAll (.inside plan.options.recordName) plan.recordBody = plan.recordBody

/-- What a generation carries: its parts do what the code of the command says, among everything that
the command uses. -/
structure Carries (store : Store) (plan : Plan) (generation : Generation) (space : Ref)
    (own : List RecordField) : Prop where
  isSpace : store.IsSpace space
  binds : Binds store space plan.uses
  /-- Among the names that are not kept for generated code, only those chosen for the command mean
  anything of their own. -/
  plain : ∀ name, Text.isReserved name = false →
    name ∉ ["__name__", plan.options.recordName, plan.options.extensionName] →
    Entries.get? (store.names space) name = none
  isAlias : HasAlias store plan space generation.recordClass own
  routing : plan.isRouted = true →
    ∃ route, HasRouting store plan space route generation.routine
  method : plan.options.noExtension = false → ∃ place otherwise chooser,
    generation.extensionMethod = some (.object ClassId.function place) ∧
    store.object? place = some (.function chooser) ∧
    chooser.body = .dispatch generation.implementations otherwise ∧
    List.Forall₂ (Implements store plan space) plan.implementations generation.implementations
  bare : plan.options.noExtension = true →
    generation.extensionMethod = none ∧ generation.implementations = []

/-- What a generation carries is there as long as nothing it relies on is changed. -/
theorem Carries.of_follows {before after : Store} {plan : Plan} {generation : Generation}
    {space : Ref} {own : List RecordField} (carries : Carries before plan generation space own)
    (follows : before.Follows after) : Carries after plan generation space own where
  isSpace := follows.isSpace carries.isSpace
  binds use isUse := by rw [follows.names_eq carries.isSpace, carries.binds use isUse]
  plain name unreserved other := by
    rw [follows.names_eq carries.isSpace, carries.plain name unreserved other]
  isAlias :=
    { means := by rw [follows.names_eq carries.isSpace, carries.isAlias.means]
      record := follows.keeps.recordOf carries.isAlias.record }
  routing isRouted := by
    obtain ⟨route, isRouting⟩ := carries.routing isRouted
    refine ⟨route, ?_, follows.keeps.runsCode isRouting.routes, ?_,
      follows.keeps.runsCode isRouting.answers, isRouting.isAfter⟩
    · rw [follows.names_eq carries.isSpace, isRouting.isRoute]
    · rw [follows.names_eq carries.isSpace, isRouting.isRoutine]
  method isMade := by
    obtain ⟨place, otherwise, chooser, isMethod, stands, does, implemented⟩ := carries.method isMade
    obtain ⟨changed, stood, -, doesToo⟩ := follows.keeps.functions place chooser stands
    refine ⟨place, otherwise, changed, isMethod, stood, doesToo.trans does, ?_⟩
    refine implemented.imp fun implementation entry implements => ?_
    refine ⟨implements.isFor, ?_, follows.keeps.runsCode implements.runs, implements.isAfter⟩
    rw [follows.names_eq carries.isSpace, implements.means]
  bare := carries.bare

/-! ## Names and words -/

section Naming

variable {before after : Store} {space place : Ref} {name : String} {content : Value}

/-- The parts of a function that decide which calls it takes. -/
def callParts : List String := ["__defaults__", "__kwdefaults__"]

/-- The parts of a function that say what it is called, and what it is about. -/
def describedParts : List String :=
  ["__name__", "__qualname__", "__doc__", "__module__", "__annotations__"]

theorem builds_setFunction {function changed : FunctionObject} (isNew : space < place)
    (stands : before.object? place = some (.function function))
    (takes : changed.parameters = function.parameters) (does : changed.body = function.body) :
    before.Builds space [] [] ((Change.setFunction place changed).apply before) := by
  obtain ⟨cell, isCell, isObject⟩ := Option.map_eq_some_iff.mp stands
  refine Builds.of_modifyCell isCell isNew
    (.inl ⟨function, changed, isObject, ?_, .inr ⟨takes, does⟩⟩)
  rw [isObject]

/-- What setting an attribute of a function comes to, other than of what decides about its calls: its
description changes, or the attribute is put beside it. -/
theorem setAttribute_function_cases {function : FunctionObject}
    (stands : before.object? place = some (.function function)) (harmless : name ∉ callParts)
    (runs : (Action.setAttribute (.object ClassId.function place) name content).run before =
      (.ok (), after)) :
    ∃ grown, before.Grows grown ∧
      ((∃ changed, after = (Change.setFunction place changed).apply grown ∧
          changed.parameters = function.parameters ∧ changed.body = function.body) ∨
        (name ∉ describedParts ∧ after = (Change.setAttribute place name content).apply grown)) := by
  have notFrozen : ClassId.isFrozen ClassId.function = false := rfl
  simp only [callParts, List.mem_cons, List.not_mem_nil, or_false, not_or] at harmless
  simp only [Action.setAttribute, bind_eq, run_store_bind, notFrozen, Bool.false_eq_true, if_false,
    stands, setFunctionAttribute] at runs
  split at runs
  · cases runs
    exact ⟨before, .refl _, .inl ⟨_, rfl, rfl, rfl⟩⟩
  · cases runs
  · cases runs
    exact ⟨before, .refl _, .inl ⟨_, rfl, rfl, rfl⟩⟩
  · cases runs
  · cases runs
    exact ⟨before, .refl _, .inl ⟨_, rfl, rfl, rfl⟩⟩
  · cases runs
    exact ⟨before, .refl _, .inl ⟨_, rfl, rfl, rfl⟩⟩
  · exact absurd rfl harmless.1
  · exact absurd rfl harmless.1
  · exact absurd rfl harmless.1
  · exact absurd rfl harmless.2
  · exact absurd rfl harmless.2
  · simp only [newDict, run_allocate_bind, run_perform] at runs
    cases runs
    exact ⟨_, .allocate _ _ _, .inl ⟨_, rfl, rfl, rfl⟩⟩
  · split at runs
    · cases runs
      exact ⟨before, .refl _, .inl ⟨_, rfl, rfl, rfl⟩⟩
    · cases runs
  · split at runs
    · cases runs
    · split at runs
      · cases runs
      · cases runs
        refine ⟨before, .refl _, .inr ⟨?_, rfl⟩⟩
        simp_all [describedParts]

/-- Setting an attribute of a function, other than what decides about its calls, changes neither
its parameters nor its code. -/
theorem setAttribute_function {function : FunctionObject} (isNew : space < place)
    (stands : before.object? place = some (.function function)) (harmless : name ∉ callParts)
    (runs : (Action.setAttribute (.object ClassId.function place) name content).run before =
      (.ok (), after)) : before.Builds space [] [] after := by
  obtain ⟨grown, grows, ⟨changed, rfl, takes, does⟩ | ⟨-, rfl⟩⟩ :=
    setAttribute_function_cases stands harmless runs
  · have described := builds_setFunction isNew (grows.object? stands) takes does
    simpa using (Builds.closed_of_grows _ grows).trans described
  · obtain ⟨cell, isCell, -⟩ := Option.map_eq_some_iff.mp (grows.object? stands)
    have beside : grown.Builds space [] [] ((Change.setAttribute place name content).apply grown) :=
      Builds.of_modifyCell isCell isNew (.inr rfl)
    simpa using (Builds.closed_of_grows _ grows).trans beside

/-- Setting an attribute of a function spares the attributes of every other one; of the function
itself it does so, too, where the attribute is part of its description. -/
theorem setAttribute_spares {function : FunctionObject} {other : Ref}
    (stands : before.object? place = some (.function function)) (harmless : name ∉ callParts)
    (beside : other ≠ place ∨ name ∈ describedParts)
    (runs : (Action.setAttribute (.object ClassId.function place) name content).run before =
      (.ok (), after)) : before.Spares other after := by
  obtain ⟨grown, grows, ⟨changed, rfl, -⟩ | ⟨undescribed, rfl⟩⟩ :=
    setAttribute_function_cases stands harmless runs
  · exact (Spares.of_grows grows).trans (.modifyCell _ (.inr fun _ => rfl))
  · have apart := beside.resolve_right undescribed
    exact (Spares.of_grows grows).trans (.modifyCell _ (.inl apart))

end Naming

/-! ## Collecting the extension -/

section Collecting

variable {before after : Store} {space : Ref} {plan : Plan} {function : Value}

/-- A value is a function that stands behind a space. -/
structure StandsAfter (store : Store) (space : Ref) (function : Value) : Prop where
  isAfter : IsAfter space function
  stands : ∀ place, function = .object ClassId.function place →
    ∃ content, store.object? place = some (.function content)

theorem StandsAfter.of_builds {written : List String} (stands : StandsAfter before space function)
    (builds : before.Builds space written [] after) : StandsAfter after space function where
  isAfter := stands.isAfter
  stands place isFunction := by
    obtain ⟨content, stood⟩ := stands.stands place isFunction
    obtain ⟨changed, stoodToo, -⟩ := builds.functions place content (by simp) stood
    exact ⟨changed, stoodToo⟩

theorem StandsAfter.of_runsCode {parameters : List CallParameter} {body : List Statement}
    (runs : before.RunsCode function parameters body space) (isAfter : IsAfter space function) :
    StandsAfter before space function where
  isAfter := isAfter
  stands place isFunction := by
    obtain ⟨other, content, rfl, stands, -⟩ := runs
    obtain rfl : other = place := (Value.object.inj isFunction).2
    exact ⟨content, stands⟩

theorem StandsAfter.setAttribute {name : String} {content : Value}
    (stands : StandsAfter before space function) (harmless : name ∉ callParts)
    (runs : (Action.setAttribute function name content).run before = (.ok (), after)) :
    before.Builds space [] [] after := by
  obtain ⟨place, rfl, isNew⟩ := stands.isAfter
  obtain ⟨described, stood⟩ := stands.stands place rfl
  exact setAttribute_function isNew stood harmless runs

theorem StandsAfter.spares {name : String} {content : Value} {other : Ref}
    (stands : StandsAfter before space function) (harmless : name ∉ callParts)
    (beside : function ≠ .object ClassId.function other ∨ name ∈ describedParts)
    (runs : (Action.setAttribute function name content).run before = (.ok (), after)) :
    before.Spares other after := by
  obtain ⟨place, rfl, -⟩ := stands.isAfter
  obtain ⟨described, stood⟩ := stands.stands place rfl
  refine setAttribute_spares stood harmless (beside.imp_left fun apart => ?_) runs
  rintro rfl
  exact apart rfl

/-- A function that is marked has its mark. -/
theorem StandsAfter.ownAttribute?_mark {place : Ref} {content : Value}
    (stands : StandsAfter before space (.object ClassId.function place))
    (runs : (Action.setAttribute (.object ClassId.function place) extensionMark content).run before =
      (.ok (), after)) :
    after.ownAttribute? (.object ClassId.function place) extensionMark = some content := by
  obtain ⟨described, stood⟩ := stands.stands place rfl
  have notFrozen : ClassId.isFrozen ClassId.function = false := rfl
  simp only [Action.setAttribute, bind_eq, run_store_bind, notFrozen, Bool.false_eq_true, if_false,
    stood] at runs
  cases runs
  obtain ⟨cell, isCell, -⟩ := Option.map_eq_some_iff.mp stood
  rw [Change.apply, ownAttribute?, attributesOf, cell?_modifyCell, isCell]
  exact Entries.get?_put_self _ _ _

/-- Implementations are functions that stand behind the space of their code. -/
theorem standsAfter_of_implements {implementations : List Plan.Implementation}
    {functions : List (ClassId × Value)}
    (implemented : List.Forall₂ (Implements before plan space) implementations functions) :
    ∀ entry ∈ functions, StandsAfter before space entry.2 := by
  induction implemented with
  | nil => simp
  | cons first _ ih =>
    rw [List.forall_mem_cons]
    exact ⟨.of_runsCode first.runs first.isAfter, ih⟩

theorem nameMethod_eq_ok {owner : String} (stands : StandsAfter before space function)
    (runs : (nameMethod plan function owner).run before = (.ok (), after)) :
    before.Builds space [] [] after ∧ ∀ other, before.Spares other after := by
  simp only [nameMethod, bind_eq, run_bind_eq_ok] at runs
  obtain ⟨_, first, names, _, second, qualifies, explains⟩ := runs
  have ofName := stands.setAttribute (by decide) names
  have standsNamed := stands.of_builds ofName
  have ofPath := standsNamed.setAttribute (by decide) qualifies
  have standsPlaced := standsNamed.of_builds ofPath
  have ofWords := standsPlaced.setAttribute (by decide) explains
  refine ⟨by simpa using (ofName.trans ofPath).trans ofWords, fun other => ?_⟩
  exact ((stands.spares (by decide) (.inr (by decide)) names).trans
    (standsNamed.spares (by decide) (.inr (by decide)) qualifies)).trans
    (standsPlaced.spares (by decide) (.inr (by decide)) explains)

/-- Setting the mark of what was generated on a class. -/
theorem setAttribute_mark (space : Ref) {id : ClassId} {declared : GeneratedClass} {value : Value}
    (isDeclared : Entries.get? before.generated id = some declared)
    (runs : (Action.setAttribute (.cls id) generatedMark value).run before = (.ok (), after)) :
    after = (Change.setClassAttribute id generatedMark value).apply before ∧
      before.Builds space [] [] after := by
  obtain rfl := setClassAttribute_eq_ok id runs
  exact ⟨rfl, Builds.setClassAttribute value isDeclared (.inr rfl)
    (className_eq_of_classAttribute?
      (classAttribute?_setClassAttribute_of_ne before value (.inr (by decide))))⟩

theorem run_declaredImplementations {functions : List (ClassId × Value)} {home : Ref}
    (isTable : Entries.get? (before.names space) implementationsName =
      some (.object ClassId.dict home))
    (stands : before.object? home = some (.dict (tableOf functions))) :
    (declaredImplementations space).run before = (.ok functions, before) := by
  have entries : (tableOf functions).filterMap
      (fun entry => entry.1.asClass?.map fun id => (id, entry.2)) = functions := by
    rw [tableOf, List.filterMap_map]
    exact List.filterMap_some
  simp only [declaredImplementations, bind_eq, run_store_bind, isTable, objectOf?, stands,
    pure_eq_done, run_done]
  rw [entries]

/-- What is collected of an extension is the class, and the method with its mark and its
implementations. -/
theorem collectExtension_eq_ok {place : Ref} {otherwise : Value}
    {functions : List (ClassId × Value)} {extension : ClassId} {collected : Action.Extension}
    (has : HasExtension before plan space place otherwise functions extension)
    (runs : (collectExtension plan space).run before = (.ok collected, after)) :
    collected.method = some (.object ClassId.function place) ∧
      collected.implementations = functions ∧ collected.type = some (.cls extension) ∧
      before.Builds space [] [] after ∧
      ∃ text, after.ownAttribute? (.object ClassId.function place) extensionMark =
        some (.ofText text) := by
  obtain ⟨home, isTable, isDict⟩ := has.table
  obtain ⟨declared, isDeclared, -⟩ := has.isExtension.declared
  obtain ⟨⟨chooser, isChooser, -⟩, -⟩ := has.method.dispatches
  have ofMethod : StandsAfter before space (.object ClassId.function place) := by
    refine ⟨⟨place, rfl, has.method.isNew⟩, ?_⟩
    rintro other same
    obtain rfl := (Value.object.inj same).2
    exact ⟨chooser, isChooser⟩
  have ofFunctions := standsAfter_of_implements has.implements
  simp only [collectExtension, bind_eq, run_store_bind, has.means, has.method.means] at runs
  rw [run_bind_of_ok (run_declaredImplementations isTable isDict)] at runs
  simp only [run_store_bind, run_bind_eq_ok] at runs
  obtain ⟨⟨⟩, first, marks, ⟨⟩, second, names, ⟨⟩, third, tells, ⟨⟩, last, each, ends⟩ := runs
  cases ends
  have ofMark := (setAttribute_mark space isDeclared marks).2
  have ofNames := (nameMethod_eq_ok (ofMethod.of_builds ofMark) names).1
  have standsNamed := (ofMethod.of_builds ofMark).of_builds ofNames
  have ofTold := standsNamed.setAttribute (by decide) tells
  have sofar : before.Builds space [] [] third := by
    simpa using (ofMark.trans ofNames).trans ofTold
  have isMarked := standsNamed.ownAttribute?_mark tells
  obtain ⟨builds, spares⟩ := forEach_keeps
    (fun store => before.Builds space [] [] store ∧ third.Spares place store) (by
      intro entry isEntry reached later kept step
      simp only [run_store_bind] at step
      obtain ⟨ofEntry, spares⟩ := nameMethod_eq_ok ((ofFunctions entry isEntry).of_builds kept.1) step
      exact ⟨by simpa using kept.1.trans ofEntry, kept.2.trans (spares place)⟩)
    ⟨sofar, .of_grows (.refl third)⟩ each
  exact ⟨rfl, rfl, rfl, builds, _, spares.ownAttribute?_eq isMarked⟩

/-- Where the text declared no extension, nothing is collected. -/
theorem collectExtension_bare {collected : Action.Extension}
    (bare : ∀ name ∈ [extensionAlias, methodName, implementationsName],
      Entries.get? (before.names space) name = none)
    (runs : (collectExtension plan space).run before = (.ok collected, after)) :
    collected.method = none ∧ collected.implementations = [] ∧ collected.type = none ∧
      after = before := by
  simp only [List.forall_mem_cons] at bare
  obtain ⟨noType, noMethod, noTable, -⟩ := bare
  have noneDeclared : (declaredImplementations space).run before = (.ok [], before) := by
    simp only [declaredImplementations, bind_eq, run_store_bind, noTable, pure_eq_done, run_done]
  simp only [collectExtension, bind_eq, run_store_bind, noType, noMethod] at runs
  rw [run_bind_of_ok noneDeclared] at runs
  cases runs
  exact ⟨rfl, rfl, rfl, rfl⟩

/-- Marking a record leaves the extension as it is. -/
theorem HasExtension.mark {place : Ref} {otherwise : Value} {functions : List (ClassId × Value)}
    {extension id : ClassId} {declared : GeneratedClass}
    (has : HasExtension before plan space place otherwise functions extension)
    (isDeclared : Entries.get? before.generated id = some declared)
    (isRecord : declared.fields.isSome) (value : Value) :
    HasExtension ((Change.setClassAttribute id generatedMark value).apply before) plan space place
      otherwise functions extension := by
  obtain ⟨other, isOther, fieldless⟩ := has.isExtension.declared
  have apart : extension ≠ id := by
    rintro rfl
    rw [isDeclared] at isOther
    cases isOther
    simp [fieldless] at isRecord
  refine ⟨⟨has.method.means, has.method.isNew, ⟨has.method.dispatches.stands,
    has.method.dispatches.open_⟩, has.method.unsupported⟩, ?_, has.table, has.means,
    ⟨has.isExtension.isMeta, ⟨other, isOther, fieldless⟩, ?_⟩, has.named⟩
  · exact has.implements.imp fun _ _ first => ⟨first.isFor, first.means, first.runs, first.isAfter⟩
  · intro name content isPut
    rw [classAttribute?_setClassAttribute_of_ne _ _ (.inl apart)] at isPut
    exact has.isExtension.attributes name content isPut

end Collecting

/-! ## The public routine -/

section Public

variable {before after : Store} {space place : Ref} {machine : Machine} {plan : Plan}
  {function : Value}

/-- Reading what the public routine takes over from a function changes nothing that is there. -/
theorem grows_sharedAttribute {name : String} (call : Caller)
    {described : FunctionObject} (isShared : name ∈ sharedAttributes ++ ["__annotations__"])
    (stands : before.object? place = some (.function described)) :
    before.Grows ((getAttribute call (.object ClassId.function place) name).run before).2 := by
  have plain : ∀ store hook, special? store (.object ClassId.function place) hook = none :=
    fun _ _ => rfl
  have apart : ∀ shared ∈ sharedAttributes ++ ["__annotations__"],
      shared ≠ "__dataclass_fields__" ∧ shared ≠ "__dataclass_params__" ∧
        shared ≠ "__kwdefaults__" ∧ shared ≠ "__code__" ∧ shared ≠ "__globals__" ∧
        shared ≠ "registry" ∧ shared ≠ "register" ∧ shared ≠ "dispatch" ∧ shared ≠ "__dict__" := by
    decide
  obtain ⟨notFields, notParameters, notDefaults, notCode, notGlobals, notRegistry, notRegister,
    notDispatch, notDict⟩ := apart name isShared
  have late : lateAttribute? before (.object ClassId.function place) name = none := by
    have notComponent : ClassId.isComponent ClassId.function = false := rfl
    simp only [lateAttribute?, fieldAttribute?, notFields, notParameters, if_false, notComponent,
      Bool.false_eq_true, false_and, and_false, objectOf?, stands, Option.bind_some]
    split
    · rfl
    · unfold lateObjectAttribute?
      cases does : described.body <;> simp_all
  simp only [getAttribute, Action.attribute?, callSpecial?, plainAttribute?, bind_eq, pure_eq_done,
    run_store_bind, Action.bind_assoc, plain, late, done_bind]
  split
  · rename_i found isFound
    have adds : (((renewed before (.object ClassId.function place) name found).bind fun answer =>
        done (some answer)).bind fun answer => orFail (.noAttribute name) answer).OnlyAdds := by
      refine .bind (.bind ?_ fun answer => .done _) fun answer => .orFail _ _
      unfold renewed
      split
      · split
        · exact .fresh _
        · exact .done _
      · exact .done _
    exact adds before
  · exact .refl before

theorem copyAttributes_eq_ok {described : FunctionObject} {names : List String}
    (stands : StandsAfter before space function) (isOld : place < space)
    (isFunction : before.object? place = some (.function described))
    (shared : ∀ name ∈ names, name ∈ sharedAttributes ++ ["__annotations__"])
    (runs : (copyAttributes machine (.object ClassId.function place) function names).run before =
      (.ok (), after)) :
    before.Builds space [] [] after ∧ ∀ other, before.Spares other after := by
  refine forEach_keeps
    (fun store => before.Builds space [] [] store ∧ ∀ other, before.Spares other store) ?_
    ⟨.refl _, fun _ => .of_grows (.refl _)⟩ runs
  rintro name isName reached later ⟨kept, spared⟩ step
  have within := lt_size_of_object? isFunction
  have stood : reached.object? place = some (.function described) := by
    rw [object?, kept.old place isOld within]
    exact isFunction
  simp only [bind_eq, run_bind_eq_ok] at step
  obtain ⟨value, between, reads, sets⟩ := step
  have grows := grows_sharedAttribute machine.call (shared name isName) stood
  rw [reads] at grows
  have grown := kept.trans (Builds.closed_of_grows _ grows)
  have parts : ∀ part ∈ sharedAttributes ++ ["__annotations__"],
      part ∉ callParts ∧ part ∈ describedParts := by decide
  obtain ⟨harmless, isDescribed⟩ := parts name (shared name isName)
  have standsThen := stands.of_builds (by simpa using grown)
  have ofSet := standsThen.setAttribute harmless sets
  exact ⟨by simpa using grown.trans ofSet, fun other => ((spared other).trans (.of_grows grows)).trans
    (standsThen.spares harmless (.inr isDescribed) sets)⟩

/-- The names of a function's own attributes are none of the parts that decide about its calls. -/
def KeepsParts (store : Store) (function : Value) : Prop :=
  ∀ entry ∈ store.attributesOf function, entry.1 ∉ callParts

/-- The public routine is the one that the code defined, if the outcome is routed.  No other
function gets an attribute. -/
theorem publicRoutine_eq_ok {described : FunctionObject} {route routine answer : Value}
    (has : plan.isRouted = true → HasRouting before plan space route routine)
    (isOld : place < space) (isFunction : before.object? place = some (.function described))
    (keepsParts : KeepsParts before (.object ClassId.function place))
    (runs : (publicRoutine machine plan (.object ClassId.function place) space).run before =
      (.ok answer, after)) :
    (plan.isRouted = true → answer = routine) ∧
      (plan.isRouted = false → answer = .object ClassId.function place) ∧
      before.Builds space [] [] after ∧
      ∀ other, answer ≠ .object ClassId.function other → before.Spares other after := by
  cases isRouted : plan.isRouted with
  | false =>
    simp only [publicRoutine, isRouted, Bool.not_false, if_true, pure_eq_done, run_done] at runs
    cases runs
    exact ⟨by simp, fun _ => rfl, .refl _, fun _ _ => .of_grows (.refl _)⟩
  | true =>
    have hasRouting := has isRouted
    have stands := StandsAfter.of_runsCode hasRouting.answers hasRouting.isAfter
    simp only [publicRoutine, isRouted, Bool.not_true, Bool.false_eq_true, if_false, bind_eq,
      run_store_bind, hasRouting.isRoutine, orFail_some, done_bind] at runs
    suffices settled : answer = routine ∧ before.Builds space [] [] after ∧
        ∀ other, routine ≠ .object ClassId.function other → before.Spares other after by
      obtain ⟨rfl, builds, spares⟩ := settled
      exact ⟨fun _ => rfl, by simp, builds, spares⟩
    cases isMode : plan.mode with
    | scheduled =>
      simp only [isMode, run_bind_eq_ok] at runs
      obtain ⟨⟨⟩, last, copies, ends⟩ := runs
      cases ends
      obtain ⟨builds, spares⟩ := copyAttributes_eq_ok stands isOld isFunction
        (fun name isName => List.mem_append_left _ isName) copies
      exact ⟨rfl, builds, fun other _ => spares other⟩
    | exclusive =>
      simp only [isMode, run_bind_eq_ok] at runs
      obtain ⟨⟨⟩, first, copies, ⟨⟩, second, shares, ⟨⟩, last, wraps, ends⟩ := runs
      cases ends
      obtain ⟨ofCopies, spares⟩ :=
        copyAttributes_eq_ok stands isOld isFunction (fun _ isName => isName) copies
      obtain ⟨ofShares, sparesShared⟩ := forEach_keeps
        (fun store => before.Builds space [] [] store ∧
          ∀ other, routine ≠ .object ClassId.function other → before.Spares other store) (by
          rintro entry isEntry reached later ⟨kept, spared⟩ step
          have standsThen := stands.of_builds kept
          have harmless := keepsParts entry isEntry
          have ofSet := standsThen.setAttribute harmless step
          exact ⟨by simpa using kept.trans ofSet, fun other apart =>
            (spared other apart).trans (standsThen.spares harmless (.inl apart) step)⟩)
        ⟨ofCopies, fun other _ => spares other⟩ shares
      have standsShared := stands.of_builds ofShares
      have ofWraps := standsShared.setAttribute (by decide) wraps
      exact ⟨rfl, by simpa using ofShares.trans ofWraps, fun other apart =>
        (sparesShared other apart).trans (standsShared.spares (by decide) (.inl apart) wraps)⟩

end Public

/-! ## The whole text -/

section Whole

variable {before after : Store} {site : Site} {bound : Nat} {plan : Plan}

/-- The names under which the parts of an extension are collected. -/
def extensionNames : List String := [extensionAlias, methodName, implementationsName]

theorem reserved_of_mem_extensionNames {name : String} (isName : name ∈ extensionNames) :
    name ∈ Plan.ownNames ∧ (∃ bare, name = Text.reserved bare) ∧
      name ∉ [recordAlias, routeName, routineName] := by
  have each : ∀ name ∈ extensionNames, name ∈ Plan.ownNames ∧
      (∃ bare, name = Text.reserved bare) ∧ name ∉ [recordAlias, routeName, routineName] := by
    simp only [extensionNames, List.forall_mem_cons]
    exact ⟨⟨by decide, ⟨_, rfl⟩, by decide⟩, ⟨by decide, ⟨_, rfl⟩, by decide⟩,
      ⟨by decide, ⟨_, rfl⟩, by decide⟩, by simp⟩
  exact each name isName

/-- The names that the text of a command binds, those that were chosen for it included. -/
def textNames (plan : Plan) : List String :=
  plan.options.recordName :: plan.options.extensionName :: Plan.ownNames

/-- The names of the record and of its routing are none that the code of an extension binds. -/
theorem notMem_written_of_extension (free : Text.isReserved plan.options.extensionName = false) :
    ∀ name ∈ [recordAlias, routeName, routineName], name ∉ methodNames ++
      [implementationsName, plan.options.extensionName, extensionAlias] := by
  have isOther : ∀ name ∈ [recordAlias, routeName, routineName],
      name ∉ methodNames ++ [implementationsName] ∧ name ≠ extensionAlias ∧
        ∃ bare, name = Text.reserved bare := by
    simp only [List.forall_mem_cons]
    exact ⟨⟨by decide, by decide, _, rfl⟩, ⟨by decide, by decide, _, rfl⟩,
      ⟨by decide, by decide, _, rfl⟩, by simp⟩
  intro name isName
  obtain ⟨apart, notAlias, bare, rfl⟩ := isOther name isName
  have notExtension := Plan.ne_reserved free bare
  simp only [List.mem_append, List.mem_cons, List.not_mem_nil, or_false, not_or] at apart ⊢
  exact ⟨apart.1, apart.2, notExtension, notAlias⟩

/-- The part of the text that routes the outcome leaves the routing, if there is one. -/
theorem run_routing {origin : Origin} (setting : Setting site before bound plan)
    (writable : Writable plan.signature.parameters)
    (runs : (forEach (if plan.isRouted then plan.routingCode else [])
      (executeAtTop site origin)).run before = (.ok (), after)) :
    ∃ route routine, (plan.isRouted = true → HasRouting after plan site.space route routine) ∧
      Setting site after bound plan ∧
      before.Builds site.space [routeName, routineName] [] after := by
  cases isRouted : plan.isRouted with
  | false =>
    rw [isRouted] at runs
    cases runs
    exact ⟨.absent, .absent, by simp, setting, .refl _⟩
  | true =>
    rw [isRouted] at runs
    obtain ⟨route, routine, has, builds⟩ := run_routingCode setting isRouted writable runs
    refine ⟨route, routine, fun _ => has, setting.of_builds ?_ builds, builds⟩
    simp only [Harmless, List.forall_mem_cons]
    exact ⟨.inr (by decide), .inr (by decide), by simp⟩

/-- The text of a command leaves its record, its routing and its extension. -/
theorem run_text {origin : Origin} (setting : Setting site before bound plan)
    (names : PlainNames plan) (kept : KeepsNames plan)
    (free : Text.isReserved plan.options.recordName = false ∧
      Text.isReserved plan.options.extensionName = false)
    (writable : Writable plan.signature.parameters)
    (runs : (runText site origin plan.code).run before = (.ok (), after)) :
    ∃ id own route routine place otherwise functions extension,
      HasAlias after plan site.space id own ∧
      ((∀ field ∈ plan.fields, field.name ≠ "__name__") →
        after.className id = plan.options.recordName) ∧
      (plan.isRouted = true → HasRouting after plan site.space route routine) ∧
      (plan.options.noExtension = false →
        HasExtension after plan site.space place otherwise functions extension) ∧
      Setting site after bound plan ∧
      (plan.options.noExtension = true → ∀ name ∈ extensionNames,
        Entries.get? (after.names site.space) name =
          Entries.get? (before.names site.space) name) ∧
      before.Builds site.space (textNames plan) [] after := by
  have apartRecord := Plan.ne_reserved free.1
  rw [runText, kept.normal, Plan.code, List.append_assoc] at runs
  obtain ⟨first, records, runs⟩ := forEach_append_eq_ok.mp runs
  obtain ⟨second, routes, extends_⟩ := forEach_append_eq_ok.mp runs
  obtain ⟨id, own, isAlias, isNamed, ofRecord⟩ := run_recordCode names setting kept.inside records
  obtain ⟨known, -, isKnown, -⟩ := isAlias.record.record.declared
  have harmlessRecord : Harmless plan [plan.options.recordName, recordAlias] := by
    simp only [Harmless, List.forall_mem_cons]
    exact ⟨.inl free.1, .inr (by decide), by simp⟩
  have settingRecord := setting.of_builds harmlessRecord ofRecord
  obtain ⟨route, routine, hasRouting, settingRouting, ofRouting⟩ :=
    run_routing settingRecord writable routes
  have aliasRouting := isAlias.of_builds settingRecord.isSpace (by decide) ofRouting
  cases isLeft : plan.options.noExtension with
  | true =>
    rw [isLeft] at extends_
    cases extends_
    refine ⟨id, own, route, routine, 0, .absent, [], id, aliasRouting,
      fun unnamed => (ofRouting.named id known isKnown).trans (isNamed unnamed), hasRouting, by simp,
      settingRouting, ?_,
      (ofRecord.trans ofRouting).mono (by simp [textNames, Plan.ownNames]) (by simp)⟩
    intro _ name isName
    obtain ⟨-, ⟨bare, rfl⟩, apart⟩ := reserved_of_mem_extensionNames isName
    have notRecord := apartRecord bare
    simp only [List.mem_cons, List.not_mem_nil, or_false, not_or] at apart
    rw [ofRouting.get?_names settingRecord.isSpace, ofRecord.get?_names setting.isSpace]
    · simpa using ⟨notRecord, apart.1⟩
    · simpa using apart.2
  | false =>
    rw [isLeft] at extends_
    obtain ⟨place, otherwise, functions, extension, has, -, settingLast, ofExtension⟩ :=
      run_extensionCode settingRouting isLeft free.2 extends_
    have unwritten := notMem_written_of_extension free.2
    refine ⟨id, own, route, routine, place, otherwise, functions, extension, ?_, fun unnamed =>
      ((ofRouting.trans ofExtension).named id known isKnown).trans (isNamed unnamed), ?_,
      fun _ => has, settingLast, by simp, ((ofRecord.trans ofRouting).trans ofExtension).mono
        (by simp [textNames, Plan.ownNames, methodNames]) (by simp)⟩
    · exact aliasRouting.of_builds settingRouting.isSpace (unwritten _ (by simp)) ofExtension
    · intro isRouted
      exact (hasRouting isRouted).of_builds settingRouting.isSpace
        ⟨unwritten _ (by simp), unwritten _ (by simp)⟩ ofExtension

end Whole

end Code

end Deferred
