import Deferred.Proofs.ClassBody

/-!
# Declaring a class

Declaring a class changes nothing that is known of other classes.  The class gets the next number,
what its body bound becomes its attributes, and its bases decide what it inherits from.
-/

namespace Deferred

open Store Action

/-! ## Changes that are about one class -/

/-- Between two stores objects were added, and nothing changed but what is known of one class. -/
structure Store.Shapes (id : ClassId) (before after : Store) : Prop where
  cells : ∃ more, after.cells = before.cells ++ more
  generated : ∀ other ≠ id, Entries.get? after.generated other = Entries.get? before.generated other
  attributes : ∀ other ≠ id,
    Entries.get? after.attributes other = Entries.get? before.attributes other
  removed : ∀ other name, other ≠ id → (other, name) ∈ after.removed → (other, name) ∈ before.removed
  count : before.generated.length ≤ after.generated.length
  modules : after.modules = before.modules

namespace Store.Shapes

variable {before between after store : Store} {id : ClassId}

theorem refl (store : Store) : store.Shapes id store where
  cells := ⟨#[], by simp⟩
  generated _ _ := rfl
  attributes _ _ := rfl
  removed _ _ _ isRemoved := isRemoved
  count := Nat.le_refl _
  modules := rfl

theorem trans (first : before.Shapes id between) (second : between.Shapes id after) :
    before.Shapes id after where
  cells := by
    obtain ⟨some, isSome⟩ := first.cells
    obtain ⟨more, isMore⟩ := second.cells
    exact ⟨some ++ more, by rw [isMore, isSome, Array.append_assoc]⟩
  generated other apart := (second.generated other apart).trans (first.generated other apart)
  attributes other apart := (second.attributes other apart).trans (first.attributes other apart)
  removed other name apart isRemoved :=
    first.removed other name apart (second.removed other name apart isRemoved)
  count := Nat.le_trans first.count second.count
  modules := second.modules.trans first.modules

theorem of_grows (grows : before.Grows after) : before.Shapes id after where
  cells := grows.cells
  generated _ _ := by rw [grows.generated_eq]
  attributes _ _ := by rw [grows.attributes_eq]
  removed _ _ _ isRemoved := by rwa [grows.removed_eq] at isRemoved
  count := Nat.le_of_eq (by rw [grows.generated_eq])
  modules := grows.modules_eq

theorem setClassAttribute (name : String) (value : Value) :
    store.Shapes id ((Change.setClassAttribute id name value).apply store) where
  cells := ⟨#[], by simp [Change.apply, modifyClass]⟩
  generated _ _ := rfl
  attributes _ apart := Entries.get?_put_of_ne _ _ apart
  removed _ _ _ isRemoved := isRemoved
  count := Nat.le_refl _
  modules := rfl

theorem removeClassAttribute (name : String) :
    store.Shapes id ((Change.removeClassAttribute id name).apply store) where
  cells := ⟨#[], by simp [Change.apply, modifyClass]⟩
  generated _ _ := rfl
  attributes _ apart := Entries.get?_put_of_ne _ _ apart
  removed other part apart isRemoved := by
    rcases List.mem_cons.mp isRemoved with same | isOld
    · cases same
      exact absurd rfl apart
    · exact isOld
  count := Nat.le_refl _
  modules := rfl

theorem declareClass (declared : GeneratedClass) :
    store.Shapes id ((Change.declareClass id declared).apply store) where
  cells := ⟨#[], by simp [Change.apply]⟩
  generated _ apart := Entries.get?_put_of_ne _ _ apart
  attributes _ _ := rfl
  removed _ _ _ isRemoved := List.mem_of_mem_filter isRemoved
  count := by
    rw [Change.apply, Entries.length_put]
    split <;> omega
  modules := rfl

theorem size_le (shapes : before.Shapes id after) : before.cells.size ≤ after.cells.size := by
  obtain ⟨more, isMore⟩ := shapes.cells
  rw [isMore, Array.size_append]
  exact Nat.le_add_right _ _

theorem cell? (shapes : before.Shapes id after) {place : Ref} {cell : Cell}
    (stands : before.cell? place = some cell) : after.cell? place = some cell := by
  obtain ⟨more, isMore⟩ := shapes.cells
  have isOld : place < before.cells.size := (Array.getElem?_eq_some_iff.mp stands).1
  rw [Store.cell?, isMore, Array.getElem?_append_left isOld]
  exact stands

theorem object? (shapes : before.Shapes id after) {place : Ref} {object : Object}
    (stands : before.object? place = some object) : after.object? place = some object := by
  rw [Store.object?, Option.map_eq_some_iff] at stands ⊢
  obtain ⟨cell, isCell, isObject⟩ := stands
  exact ⟨cell, shapes.cell? isCell, isObject⟩

theorem runsCode (shapes : before.Shapes id after) {value : Value}
    {parameters : List CallParameter} {body : List Code.Statement} {space : Ref}
    (runs : before.RunsCode value parameters body space) :
    after.RunsCode value parameters body space := by
  obtain ⟨place, function, isFunction, stands, takes, does⟩ := runs
  exact ⟨place, function, isFunction, shapes.object? stands, takes, does⟩

theorem ne_of_declared {other : ClassId} {declared : GeneratedClass}
    (isNew : Entries.get? before.generated id = none)
    (isDeclared : Entries.get? before.generated other = some declared) : other ≠ id := by
  rintro rfl
  rw [isNew] at isDeclared
  cases isDeclared

/-- A class that is declared at the end leaves a store intact. -/
theorem intact (shapes : before.Shapes id after) {number : Nat} (isNumber : id.number? = some number)
    (given : number < after.generated.length) (intact : before.Intact) : after.Intact := by
  have known := Builds.declared_ne_of_number? isNumber
  refine ⟨?_, ?_, ?_, ?_⟩
  · intro home name
    rw [shapes.generated _ (known home name)]
    exact intact.declared home name
  · intro other isHost part kept parent isAbove
    obtain ⟨free, present⟩ := intact.unchanged other isHost part kept parent isAbove
    have apart := Builds.ne_of_mem_ancestors isNumber isHost isAbove
    refine ⟨?_, fun isRemoved => present (shapes.removed _ _ apart isRemoved)⟩
    rw [classAttribute?, shapes.attributes parent apart]
    exact free
  · intro home owner part content isPut
    rw [classAttribute?, shapes.attributes _ (known home owner)] at isPut
    exact intact.settled home owner part content isPut
  · intro other count isCount tooLarge
    have apart := Builds.ne_of_number?_lt isNumber isCount (Nat.lt_of_lt_of_le given tooLarge)
    obtain ⟨unknown, bare⟩ := intact.numbered other count isCount
      (Nat.le_trans shapes.count tooLarge)
    rw [shapes.generated other apart, shapes.attributes other apart]
    exact ⟨unknown, bare⟩

/-- What is about a class that is declared at the end leaves everything else alone. -/
theorem builds (shapes : before.Shapes id after) {number : Nat} (space : Ref)
    (isNew : Entries.get? before.generated id = none)
    (isNumber : id.number? = some number) (given : number < after.generated.length) :
    before.Builds space [] [] after where
  size := shapes.size_le
  old place _ isOld := by
    obtain ⟨more, isMore⟩ := shapes.cells
    rw [Store.cell?, Store.cell?, isMore, Array.getElem?_append_left isOld]
  names bound isSpace := ⟨bound, shapes.object? isSpace, fun _ _ => rfl⟩
  objects _ _ _ stands _ := shapes.object? stands
  functions _ function _ stands := ⟨function, shapes.object? stands, rfl, rfl⟩
  declared other declared isDeclared := by
    have apart := ne_of_declared isNew isDeclared
    exact ⟨declared, by rw [shapes.generated other apart, isDeclared], rfl, rfl, rfl⟩
  attributes other declared name isDeclared _ _ := by
    have apart := ne_of_declared isNew isDeclared
    rw [classAttribute?, classAttribute?, shapes.attributes other apart]
  present other declared name isDeclared isPresent isRemoved := by
    have apart := ne_of_declared isNew isDeclared
    exact isPresent (shapes.removed other name apart isRemoved)
  hosts _ home name part := by
    have apart := Builds.declared_ne_of_number? isNumber home name
    rw [classAttribute?, classAttribute?, shapes.attributes _ apart]
  named other declared isDeclared := by
    have apart := ne_of_declared isNew isDeclared
    refine className_eq_of_classAttribute? ?_
    rw [classAttribute?, classAttribute?, shapes.attributes other apart]
  modules := shapes.modules
  intact intact := shapes.intact isNumber given intact

end Store.Shapes

/-- No attribute of a class is kept twice. -/
def Store.OneEach (store : Store) (id : ClassId) : Prop :=
  ∀ bindings, Entries.get? store.attributes id = some bindings → (Entries.keys bindings).Nodup

theorem Store.OneEach.setClassAttribute {store : Store} {id : ClassId} (one : store.OneEach id)
    (name : String) (value : Value) :
    ((Change.setClassAttribute id name value).apply store).OneEach id := by
  intro bindings isThere
  rw [Change.apply, modifyClass, Entries.get?_put_self] at isThere
  cases isThere
  apply Entries.nodup_keys_put
  cases isOld : Entries.get? store.attributes id with
  | none => simp [Entries.keys]
  | some bindings => exact one bindings isOld

namespace Action

variable {store before after : Store} {id base : ClassId}

/-! ## What a body leaves on a class -/

/-- What stands on a class after its body was put on it. -/
structure Puts (id : ClassId) (body : Bindings) (before after : Store) : Prop where
  found : ∀ name value, Entries.get? body name = some value →
    after.classAttribute? id name = some value
  kept : ∀ name, Entries.get? body name = none →
    after.classAttribute? id name = before.classAttribute? id name
  generated : after.generated = before.generated
  removed : after.removed = before.removed
  cells : after.cells = before.cells
  shapes : before.Shapes id after
  oneEach : before.OneEach id → after.OneEach id

theorem puts_body {body : Bindings} (apart : (Entries.keys body).Nodup)
    (runs : (forEach body fun entry =>
      perform (.setClassAttribute id entry.1 entry.2)).run before = (.ok (), after)) :
    Puts id body before after := by
  induction body generalizing before with
  | nil =>
    cases runs
    refine ⟨?_, fun _ _ => rfl, rfl, rfl, rfl, .refl _, fun one => one⟩
    intro name value isFound
    cases isFound
  | cons entry rest ih =>
    rw [forEach_cons, run_perform_bind] at runs
    simp only [Entries.keys, List.map_cons, List.nodup_cons] at apart
    have later := ih apart.2 runs
    have isLast : Entries.get? rest entry.1 = none := Entries.get?_eq_none_iff.mpr apart.1
    refine ⟨?_, ?_, later.generated, later.removed, later.cells,
      (Shapes.setClassAttribute entry.1 entry.2).trans later.shapes,
      fun one => later.oneEach (one.setClassAttribute _ _)⟩
    · intro name value isFound
      rw [Entries.get?] at isFound
      split at isFound
      · rename_i same
        cases isFound
        obtain rfl : entry.1 = name := by simpa using same
        rw [later.kept _ isLast, classAttribute?_setClassAttribute]
      · exact later.found name value isFound
    · intro name isMissing
      rw [Entries.get?] at isMissing
      split at isMissing
      · cases isMissing
      · rename_i differs
        rw [later.kept name isMissing, classAttribute?_setClassAttribute_of_ne _ _
          (.inr fun same => differs (by simp [same]))]

/-! ## The class that a declaration makes -/

/-- The class that is declared next. -/
def declaredId (recorded : Bool) (store : Store) (home name : String) (classes : List ClassId) :
    ClassId :=
  if recorded then .record store.generated.length home name (makerFor classes)
  else .extension store.generated.length home name (makerFor classes)

theorem number?_declaredId (recorded : Bool) (store : Store) (home name : String)
    (classes : List ClassId) :
    (declaredId recorded store home name classes).number? = some store.generated.length := by
  cases recorded <;> rfl

/-- The names that a class which can be implemented does not take from its body. -/
def unlessAbstract (maker : Maker) (body : Bindings) : Bindings :=
  if maker = .abstract then
    body.filter fun (name, _) => name ≠ "__abstractmethods__" && name ≠ "_abc_impl"
  else body

theorem nodup_keys_unlessAbstract (maker : Maker) {body : Bindings}
    (apart : (Entries.keys body).Nodup) : (Entries.keys (unlessAbstract maker body)).Nodup := by
  rw [unlessAbstract]
  split
  · exact Entries.nodup_keys_filter apart _
  · exact apart

/-- What a class takes from its body is bound in it. -/
theorem get?_of_get?_unlessAbstract {maker : Maker} {body : Bindings} {name : String}
    {value : Value} (apart : (Entries.keys body).Nodup)
    (isBound : Entries.get? (unlessAbstract maker body) name = some value) :
    Entries.get? body name = some value := by
  rw [unlessAbstract] at isBound
  split at isBound
  · exact Entries.get?_of_get?_filter apart isBound
  · exact isBound

theorem get?_unlessAbstract (maker : Maker) {body : Bindings} {name : String} {value : Value}
    (notMethods : name ≠ "__abstractmethods__") (notRegistry : name ≠ "_abc_impl")
    (isBound : Entries.get? body name = some value) :
    Entries.get? (unlessAbstract maker body) name = some value := by
  rw [unlessAbstract]
  split
  · rw [Entries.get?_filter (by simp [notMethods, notRegistry]), isBound]
  · exact isBound

/-- A declaration that is not refused declares the next class and puts the body on it. -/
theorem declareClass_eq_ok {recorded : Bool} {name home : String} {bases typeVariables : List Value}
    {body : Bindings} {classes : List ClassId} {made : Value}
    (areClasses : classesOf before bases = .ok classes)
    (runs : (declareClass recorded name home bases typeVariables body).run before =
      (.ok made, after)) :
    made = .cls (declaredId recorded before home name classes) ∧
      (forEach (unlessAbstract (makerFor classes) body) fun entry =>
        perform (.setClassAttribute (declaredId recorded before home name classes) entry.1
          entry.2)).run
        ((Change.declareClass (declaredId recorded before home name classes)
          { bases := classes
            ancestors := declaredId recorded before home name classes ::
              Store.keepLast (classes.flatMap before.ancestors)
            typeVariables }).apply before) = (.ok (), after) := by
  simp only [declareClass, bind_eq, run_store_bind, areClasses] at runs
  split at runs
  · cases runs
  · split at runs
    · cases runs
    · simp only [pure_eq_done, run_perform_bind, run_bind_eq_ok, run_done] at runs
      obtain ⟨_, _, sets, ends⟩ := runs
      cases ends
      exact ⟨rfl, sets⟩

/-- A class was declared, and what its body bound was put on it. -/
structure Declared (id : ClassId) (declared : GeneratedClass) (body : Bindings)
    (before after : Store) : Prop where
  isNew : Entries.get? before.generated id = none
  isNumber : id.number? = some before.generated.length
  isDeclared : Entries.get? after.generated id = some declared
  found : ∀ name value, after.classAttribute? id name = some value →
    Entries.get? body name = some value
  put : ∀ name value, name ≠ "__abstractmethods__" → name ≠ "_abc_impl" →
    Entries.get? body name = some value → after.classAttribute? id name = some value
  present : ∀ name, (id, name) ∉ after.removed
  cells : after.cells = before.cells
  given : before.generated.length < after.generated.length
  shapes : before.Shapes id after
  oneEach : after.OneEach id

/-- A declaration that is not refused declares a class of its own. -/
theorem declared_of_declareClass (classes : List ClassId) {recorded : Bool} {name home : String}
    {bases typeVariables : List Value} {body : Bindings} {made : Value}
    (intact : before.Intact) (areClasses : classesOf before bases = .ok classes)
    (apart : (Entries.keys body).Nodup)
    (runs : (declareClass recorded name home bases typeVariables body).run before =
      (.ok made, after)) :
    made = .cls (declaredId recorded before home name classes) ∧
      Declared (declaredId recorded before home name classes)
        { bases := classes
          ancestors := declaredId recorded before home name classes ::
            Store.keepLast (classes.flatMap before.ancestors)
          typeVariables } body before after := by
  obtain ⟨isMade, sets⟩ := declareClass_eq_ok areClasses runs
  refine ⟨isMade, ?_⟩
  generalize isId : declaredId recorded before home name classes = id at sets ⊢
  have isNumber : id.number? = some before.generated.length := by
    rw [← isId, number?_declaredId]
  obtain ⟨isNew, bare⟩ := intact.numbered id _ isNumber (Nat.le_refl _)
  have puts := puts_body (nodup_keys_unlessAbstract _ apart) sets
  have unset : ∀ part, ((Change.declareClass id
      { bases := classes, ancestors := id :: Store.keepLast (classes.flatMap before.ancestors)
        typeVariables }).apply before).classAttribute? id part = none := by
    intro part
    rw [classAttribute?, Change.apply, bare]
    rfl
  refine ⟨isNew, isNumber, ?_, ?_, ?_, ?_, puts.cells, ?_,
    (Shapes.declareClass _).trans puts.shapes, ?_⟩
  · rw [puts.generated, Change.apply, Entries.get?_put_self]
  · intro part value isPut
    cases isBound : Entries.get? (unlessAbstract (makerFor classes) body) part with
    | none =>
      rw [puts.kept part isBound, unset] at isPut
      cases isPut
    | some content =>
      rw [puts.found part content isBound] at isPut
      cases isPut
      exact get?_of_get?_unlessAbstract apart isBound
  · intro part value notMethods notRegistry isBound
    exact puts.found part value (get?_unlessAbstract _ notMethods notRegistry isBound)
  · intro part isRemoved
    rw [puts.removed, Change.apply, List.mem_filter] at isRemoved
    simp at isRemoved
  · rw [puts.generated, Change.apply]
    rw [Entries.length_put, Entries.has, isNew]
    exact Nat.lt_succ_self _
  · apply puts.oneEach
    intro bindings isThere
    rw [Change.apply, bare] at isThere
    cases isThere

end Action

namespace Code

open Action

variable {site : Site} {before after : Store}

/-- A class gets a table of the annotations that its body noted, if there are any. -/
def HoldsTable (store : Store) (hints : Bindings) (table : Value) : Prop :=
  hints ≠ [] → ∃ place, table = .object ClassId.dict place ∧
    store.object? place = some (.dict (hints.map fun (name, value) => (.ofText name, value)))

/-- What a class is declared with: what its body bound, and the annotations that it noted. -/
def declaredBindings (body : ClassBody) (table : Value) : Bindings :=
  Entries.putAll body.bindings (if body.hints.isEmpty then [] else [("__annotations__", table)])

/-- A declaration that is not refused runs the body of the class, declares the class with what the
body bound, and applies the decorators to it. -/
theorem makeClass_eq_ok (classes : List ClassId) {origin : Origin}
    {decorators bases : List Expr} {name : String} {statements : List Statement}
    {given written parents : List Value}
    {made : Value} (ofDecorators : (evaluateAll site [] decorators).run before = (.ok given, before))
    (ofBases : (evaluateAll site [] bases).run before = (.ok written, before))
    (stands : (standForBases written).run before = (.ok parents, before))
    (areClasses : ∀ later, classesOf later parents = .ok classes)
    (runs : (makeClass site origin decorators name bases statements).run before =
      (.ok made, after)) :
    ∃ body table home ran settled declared reached,
      (executeAllInClass site origin name {}
        (Statement.renamedAll (.inside name) statements)).run before = (.ok body, ran) ∧
      ran.Grows settled ∧ HoldsTable settled body.hints table ∧
      (declareClass (!given.isEmpty) name home parents (variablesOf written)
        (declaredBindings body table)).run settled = (.ok declared, reached) ∧
      (decorate site.machine declared given).run reached = (.ok made, after) := by
  simp only [makeClass, bind_eq] at runs
  rw [run_bind_of_ok ofDecorators, run_bind_of_ok ofBases, run_bind_of_ok stands, run_store_bind,
    areClasses] at runs
  split at runs
  · rename_i refused
    cases refused
  · rw [done_bind, run_bind_eq_ok] at runs
    obtain ⟨body, ran, ofBody, runs⟩ := runs
    by_cases isEmpty : body.hints.isEmpty = true
    · rw [if_pos isEmpty, done_bind, run_store_bind, run_bind_eq_ok] at runs
      obtain ⟨declared, reached, declares, decorates⟩ := runs
      have same : Entries.putAll body.bindings [] = declaredBindings body .absent := by
        rw [declaredBindings, if_pos isEmpty]
      rw [same] at declares
      refine ⟨body, .absent, _, ran, ran, declared, reached, ofBody, .refl _, ?_, declares, decorates⟩
      intro hasSome
      exact absurd (List.isEmpty_iff.mp isEmpty) hasSome
    · simp only [if_neg isEmpty, newTable, newDict, run_allocate_bind, done_bind,
        run_store_bind] at runs
      rw [run_bind_eq_ok] at runs
      obtain ⟨declared, reached, declares, decorates⟩ := runs
      have same : Entries.putAll body.bindings
          [("__annotations__", .object ClassId.dict ran.cells.size)] =
            declaredBindings body (.object ClassId.dict ran.cells.size) := by
        rw [declaredBindings, if_neg isEmpty]
      rw [same] at declares
      exact ⟨body, _, _, ran, _, declared, reached, ofBody, .allocate _ _ _,
        fun _ => ⟨_, rfl, object?_allocate _ _ _⟩, declares, decorates⟩

end Code

end Deferred
