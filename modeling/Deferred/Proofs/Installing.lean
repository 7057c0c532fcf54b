import Deferred.Proofs.Changes
import Deferred.Proofs.Conflicts

/-!
# Installing

An installation that meets no conflict puts the method on the host types, one after the other, and
then binds the published names.  The only thing that can stop it on its way is a host type that
belongs to the language itself and takes no attributes.
-/

namespace Deferred

open Store Action

/-! ## Putting a method on classes -/

namespace Store

variable {store start reached : Store} {id other : ClassId} {method : String} {value : Value}

theorem Alike.setClassAttribute (plain : isSpecial method = false) :
    Alike [method] store ((Change.setClassAttribute id method value).apply store) where
  cells := rfl
  generated := rfl
  removed := rfl
  plain := by simpa using plain
  classes other name free :=
    classAttribute?_setClassAttribute_of_ne store value (.inr (by simpa using free))
  globals _ _ _ := rfl

/-- A method that is put on a class is found there, or hides nothing of what was found before. -/
theorem find_setClassAttribute (store : Store) (id other : ClassId) (method : String)
    (value : Value) :
    ((Change.setClassAttribute id method value).apply store).find other method =
        store.find other method ∨
      ((Change.setClassAttribute id method value).apply store).find other method =
        some (.value value) := by
  generalize isAfter : (Change.setClassAttribute id method value).apply store = after
  have own : ∀ parent, after.ownFound? parent method = store.ownFound? parent method ∨
      after.ownFound? parent method = some (.value value) := by
    intro parent
    by_cases same : parent = id
    · right
      simp only [ownFound?, same, ← isAfter, classAttribute?_setClassAttribute]
    · left
      have kept : after.classAttribute? parent method = store.classAttribute? parent method := by
        rw [← isAfter, classAttribute?_setClassAttribute_of_ne store value (.inl same)]
      rw [ownFound?, ownFound?, kept, ← isAfter]
      rfl
  have above : after.ancestors other = store.ancestors other := by
    rw [← isAfter]
    rfl
  have first : ∀ parents : List ClassId,
      parents.findSome? (after.ownFound? · method) = parents.findSome? (store.ownFound? · method) ∨
        parents.findSome? (after.ownFound? · method) = some (.value value) := by
    intro parents
    induction parents with
    | nil => exact .inl rfl
    | cons parent rest ih =>
      simp only [List.findSome?_cons]
      rcases own parent with same | isValue
      · rw [same]
        cases store.ownFound? parent method with
        | some found => exact .inl rfl
        | none => exact ih
      · rw [isValue]
        exact .inr rfl
  have refers : after.referable? other = store.referable? other := by
    rw [← isAfter]
    rfl
  rcases first (store.ancestors other) with same | isValue
  · left
    simp only [find, above, same, refers]
  · right
    simp only [find, above, isValue]

theorem fixedAttribute?_plain (plain : isSpecial method = false) :
    store.fixedAttribute? id method = none := by
  have sizes : sizeAttributes.contains method = false := by
    have all : ∀ name ∈ sizeAttributes, isSpecial name = true := by decide
    rw [List.contains_eq_mem, decide_eq_false_iff_not]
    intro isSize
    exact ne_of_isSpecial plain (all method isSize) rfl
  rw [fixedAttribute?, sizes]
  · rfl
  all_goals exact ne_of_isSpecial plain (by decide)

/-- What a class has under the name of a method that is put on a class: what it had, or the
method. -/
theorem attribute?_setClassAttribute (store : Store) (id other : ClassId) (value : Value)
    (plain : isSpecial method = false) :
    ((Change.setClassAttribute id method value).apply store).attribute? (.cls other) method =
        store.attribute? (.cls other) method ∨
      ((Change.setClassAttribute id method value).apply store).attribute? (.cls other) method =
        some value := by
  have generic : ∀ store : Store, store.attribute? (.cls other) method =
      store.typeAttribute? other method := fun store => by simp only [Store.attribute?]
  simp only [generic, typeAttribute?, fixedAttribute?_plain plain]
  rcases find_setClassAttribute store id other method value with same | isValue
  · left
    rw [same]
    rfl
  · right
    rw [isValue]

/-- No function answers for a method, and it carries its mark. -/
structure Shows (store : Store) (value : Value) : Prop where
  unhooked : store.Unhooked value
  marked : value.isPresent = true → store.answers value extensionMark = true

/-- One store comes from another by putting a method on classes: nothing else changed but marks and
notices, and under the name of the method a class has what it had, or the method. -/
structure PutsOn (method : String) (value : Value) (ids : List ClassId) (start reached : Store) :
    Prop where
  rest : reached =
    { start with attributes := reached.attributes, marks := reached.marks,
                 notices := reached.notices }
  alike : Alike [method] start reached
  own : ∀ id, reached.classAttribute? id method =
    if id ∈ ids then some value else start.classAttribute? id method
  reads : ∀ id, reached.attribute? (.cls id) method = start.attribute? (.cls id) method ∨
    reached.attribute? (.cls id) method = some value

namespace PutsOn

variable {ids : List ClassId} {marks : Nat} {notices : List Notice}

theorem refl (plain : isSpecial method = false) (store : Store) :
    PutsOn method value [] store store where
  rest := rfl
  alike := .refl (by simpa using plain) store
  own _ := by simp
  reads _ := .inl rfl

theorem useMarks (puts : PutsOn method value ids start reached) (marks : Nat)
    (notices : List Notice) :
    PutsOn method value ids start { reached with marks, notices } where
  rest := by rw [puts.rest]
  alike := puts.alike.trans (.of_marks puts.alike.plain reached marks notices)
  own := puts.own
  reads id := by
    have alike : Alike [] reached { reached with marks, notices } :=
      .of_marks (by simp) reached marks notices
    rw [alike.attribute?_eq (.cls id) (by simp)]
    exact puts.reads id

/-- Putting the method on one class more. -/
theorem put (puts : PutsOn method value ids start reached) (id : ClassId) :
    PutsOn method value (id :: ids) start
      ((Change.setClassAttribute id method value).apply reached) where
  rest := by
    have same := puts.rest
    rw [Change.apply, modifyClass]
    rw [same]
  alike := by
    have plain := puts.alike.plain method List.mem_cons_self
    exact puts.alike.trans (.setClassAttribute plain)
  own other := by
    by_cases same : other = id
    · subst same
      rw [classAttribute?_setClassAttribute, if_pos List.mem_cons_self]
    · rw [classAttribute?_setClassAttribute_of_ne reached value (.inl same), puts.own other]
      simp [same]
  reads other := by
    have plain := puts.alike.plain method List.mem_cons_self
    rcases attribute?_setClassAttribute reached id other value plain with same | isValue
    · rw [same]
      exact puts.reads other
    · exact .inr isValue

theorem unhooked (puts : PutsOn method value ids start reached) {there : Value}
    (unhooked : start.Unhooked there) : reached.Unhooked there where
  every := by
    rw [puts.alike.special?_eq _ (puts.alike.special_notMem (by decide))]
    exact unhooked.every
  missing := by
    rw [puts.alike.special?_eq _ (puts.alike.special_notMem (by decide))]
    exact unhooked.missing

theorem quiet (puts : PutsOn method value ids start reached) (carries : start.Shows value)
    (quiet : start.Quiet method id) : reached.Quiet method id where
  type := puts.unhooked quiet.type
  existing there isThere := by
    rcases puts.reads id with same | isValue
    · exact puts.unhooked (quiet.existing there (same ▸ isThere))
    · rw [isValue] at isThere
      cases isThere
      exact puts.unhooked carries.unhooked

theorem answers_mark (puts : PutsOn method value ids start reached) (there : Value) :
    reached.answers there extensionMark = start.answers there extensionMark := by
  rw [Store.answers, Store.answers,
    puts.alike.attribute?_eq _ (puts.alike.special_notMem (by decide))]

theorem isReplaceable (puts : PutsOn method value ids start reached) (carries : start.Shows value)
    (replaceable : start.isReplaceable id method) : reached.isReplaceable id method := by
  intro there isThere present
  rw [puts.answers_mark]
  rcases puts.reads id with same | isValue
  · exact replaceable there (same ▸ isThere) present
  · rw [isValue] at isThere
    cases isThere
    exact carries.marked present

/-- A class has what it had under the name of the method, when the method was put on no class
above it. -/
theorem attribute?_of_apart (puts : PutsOn method value ids start reached)
    (apart : ∀ parent ∈ start.ancestors id, parent ∉ ids) :
    reached.attribute? (.cls id) method = start.attribute? (.cls id) method := by
  have plain := puts.alike.plain method List.mem_cons_self
  have own : ∀ parent ∈ start.ancestors id,
      reached.ownFound? parent method = start.ownFound? parent method := by
    intro parent isAbove
    rw [ownFound?, ownFound?, puts.own parent, if_neg (apart parent isAbove)]
    simp only [fieldMember?, recordFields?, puts.alike.generated, puts.alike.removed]
  have found : reached.find id method = start.find id method := by
    rw [find, find, puts.alike.ancestors_eq, findSome?_congr own]
    simp only [referable?, puts.alike.ancestors_eq]
  simp only [Store.attribute?, typeAttribute?, fixedAttribute?_plain plain, found,
    puts.alike.genericAttribute?_eq]

end PutsOn

end Store

namespace Action

variable {store start reached : Store} {machine : Machine} {generation : Generation}
  {id : ClassId} {method : String}

theorem run_setAttribute_cls (plain : isSpecial method = false) (value : Value) :
    if id.home = "builtins" then
      ∃ fault, (setAttribute (.cls id) method value).run store = (.error fault, store)
    else (setAttribute (.cls id) method value).run store =
      (.ok (), (Change.setClassAttribute id method value).apply store) := by
  have open_ : readOnlyAttributes.contains method = false := by
    have all : ∀ name ∈ readOnlyAttributes, isSpecial name = true := by decide
    rw [List.contains_eq_mem, decide_eq_false_iff_not]
    intro isFixed
    exact ne_of_isSpecial plain (all method isFixed) rfl
  have class_ : method ≠ "__class__" := ne_of_isSpecial plain (by decide)
  have bases : method ≠ "__bases__" := ne_of_isSpecial plain (by decide)
  have name : method ≠ "__name__" := ne_of_isSpecial plain (by decide)
  have qualname : method ≠ "__qualname__" := ne_of_isSpecial plain (by decide)
  split
  · rename_i ofLanguage
    simp only [setAttribute, bind_eq, run_store_bind, setClassAttribute, if_pos ofLanguage]
    exact ⟨_, rfl⟩
  · rename_i notOfLanguage
    simp only [setAttribute, bind_eq, run_store_bind, setClassAttribute, if_neg notOfLanguage,
      open_, class_, bases, name, qualname, or_self, if_false, Bool.false_eq_true, run_perform]

/-- A marked attribute has its mark when the mark is asked for. -/
theorem run_getAttribute_mark (machine : Machine) {there : Value} (unhooked : store.Unhooked there)
    (marked : store.answers there extensionMark = true) :
    ∃ mark marks, (getAttribute machine.call there extensionMark).run store =
      (.ok mark, { store with marks }) := by
  cases isMark : store.attribute? there extensionMark with
  | none => simp [Store.answers, isMark] at marked
  | some mark =>
    obtain ⟨again, marks, renews, -, -⟩ := run_renewed store there mark extensionMark store
    exact ⟨again, marks,
      (run_getAttribute_found unhooked.every (lateAttribute?_mark (.inl rfl)) isMark).trans
        renews⟩

/-- Putting the method on one host type: it fails only where the type takes no attributes. -/
theorem run_installMethod (machine : Machine) (plain : isSpecial generation.method = false)
    (quiet : store.Quiet generation.method id)
    (replaceable : store.isReplaceable id generation.method) :
    ∃ marks notices,
      if id.home = "builtins" then
        ∃ fault, (installMethod machine generation id).run store =
          (.error fault, { store with marks, notices })
      else (installMethod machine generation id).run store =
        (.ok (), (Change.setClassAttribute id generation.method
          (generation.extensionMethod.getD .absent)).apply { store with marks, notices }) := by
  obtain ⟨found, marks, looks, -, isFound⟩ := run_present? machine quiet.type
    (lateAttribute?_cls_of_plain _ plain)
  simp only [installMethod, bind_eq, Value.ofClass]
  rw [run_bind_of_ok looks]
  cases found with
  | none => exact ⟨marks, store.notices, run_setAttribute_cls plain _⟩
  | some previous =>
    obtain ⟨there, isThere, present, isAgain⟩ := isFound previous rfl
    have unhooked := isAgain.unhooked (quiet.existing there isThere)
    have marked : store.answers previous extensionMark = true := by
      rw [isAgain.answers_eq]
      exact replaceable there isThere present
    obtain ⟨mark, used, reads⟩ := run_getAttribute_mark machine
      (unhooked_marks marks unhooked) (by simpa using marked)
    rw [run_bind_of_ok reads]
    simp only [run_store_bind, run_perform_bind]
    exact ⟨used, _, run_setAttribute_cls plain _⟩

/-- The method is put on the host types in turn, up to one that takes no attributes. -/
theorem run_installMethods (machine : Machine) {entries : List (ClassId × Value)}
    {ids : List ClassId} (carries : start.Shows (generation.extensionMethod.getD .absent))
    (quiet : ∀ entry ∈ entries, start.Quiet generation.method entry.1)
    (replaceable : ∀ entry ∈ entries, start.isReplaceable entry.1 generation.method)
    (puts : PutsOn generation.method (generation.extensionMethod.getD .absent) ids start reached) :
    ∃ outcome after,
      (forEach entries fun (id, _) => installMethod machine generation id).run reached =
        (outcome, after) ∧
      ((outcome = .ok () ∧ PutsOn generation.method (generation.extensionMethod.getD .absent)
          ((entries.map Prod.fst).reverse ++ ids) start after) ∨
        ∃ fault done id rest, outcome = .error fault ∧
          entries.map Prod.fst = done ++ id :: rest ∧ id.home = "builtins" ∧
          PutsOn generation.method (generation.extensionMethod.getD .absent) (done.reverse ++ ids)
            start after) := by
  have plain := puts.alike.plain _ List.mem_cons_self
  induction entries generalizing ids reached with
  | nil => exact ⟨.ok (), reached, rfl, .inl ⟨rfl, by simpa using puts⟩⟩
  | cons entry rest ih =>
    obtain ⟨id, content⟩ := entry
    obtain ⟨marks, notices, installs⟩ := run_installMethod machine plain
      (puts.quiet carries (quiet _ List.mem_cons_self))
      (puts.isReplaceable carries (replaceable _ List.mem_cons_self))
    rw [forEach_cons]
    split at installs
    · rename_i ofLanguage
      obtain ⟨fault, fails⟩ := installs
      refine ⟨_, _, run_bind_of_error fails _, .inr ⟨fault, [], id, rest.map Prod.fst, rfl, rfl,
        ofLanguage, ?_⟩⟩
      simpa using puts.useMarks marks notices
    · rw [run_bind_of_ok installs]
      obtain ⟨outcome, after, installsRest, comes⟩ := ih
        (fun other isIn => quiet other (List.mem_cons_of_mem _ isIn))
        (fun other isIn => replaceable other (List.mem_cons_of_mem _ isIn))
        ((puts.useMarks marks notices).put id)
      refine ⟨outcome, after, installsRest, ?_⟩
      rcases comes with ⟨isOk, all⟩ |
        ⟨fault, done, stopped, later, isError, splits, ofLanguage, some⟩
      · exact .inl ⟨isOk, by simpa using all⟩
      · exact .inr ⟨fault, id :: done, stopped, later, isError, by simp [splits], ofLanguage,
          by simpa using some⟩

/-! ## Equipping the host types -/

/-- What comes before publishing: conflicts are looked for, and the method is put on the host
types. -/
def equip (machine : Machine) (generation : Generation) (spans : SourceMap) : Action Unit := do
  match ← installConflict? machine generation with
  | some conflict => fail (Diagnosis.ofInstall generation.qualname spans conflict)
  | none => done ()
  forEach generation.implementations fun (id, _) => installMethod machine generation id

/-- How equipping the host types can end. -/
inductive Equips (before : Store) (generation : Generation) : Except Fault Unit → Store → Prop
  /-- A conflict was found, and nothing was changed. -/
  | refused (fault : Fault) (marks : Nat) :
    Equips before generation (.error fault) { before with marks }
  /-- A host type does not take the method. -/
  | stopped (fault : Fault) (done : List ClassId) (id : ClassId) (rest : List ClassId)
      (after : Store) (unopposed : Unopposed before generation)
      (splits : generation.implementations.map Prod.fst = done ++ id :: rest)
      (ofLanguage : id.home = "builtins")
      (puts : PutsOn generation.method (generation.extensionMethod.getD .absent) done.reverse
        before after) :
    Equips before generation (.error fault) after
  /-- The method was put on every host type. -/
  | equipped (after : Store) (unopposed : Unopposed before generation)
      (puts : PutsOn generation.method (generation.extensionMethod.getD .absent)
        (generation.implementations.map Prod.fst).reverse before after) :
    Equips before generation (.ok ()) after

theorem run_equip {before : Store} (machine : Machine) (spans : SourceMap)
    (expected : Expected before generation)
    (carries : before.Shows (generation.extensionMethod.getD .absent)) :
    ∃ outcome after, (equip machine generation spans).run before = (outcome, after) ∧
      Equips before generation outcome after := by
  obtain ⟨conflict, marks, looks, free⟩ := run_installConflict? machine expected
  simp only [equip, bind_eq]
  rw [run_bind_of_ok looks]
  cases conflict with
  | some conflict => exact ⟨_, _, rfl, .refused _ marks⟩
  | none =>
    have unopposed := free rfl
    have start : PutsOn generation.method (generation.extensionMethod.getD .absent) [] before
        { before with marks } := (PutsOn.refl expected.method before).useMarks marks before.notices
    obtain ⟨outcome, after, installs, comes⟩ := run_installMethods machine carries
      expected.quiet unopposed.replaceable start
    refine ⟨outcome, after, installs, ?_⟩
    rcases comes with ⟨rfl, puts⟩ | ⟨fault, done, id, rest, rfl, splits, ofLanguage, puts⟩
    · exact .equipped after unopposed (by simpa using puts)
    · exact .stopped fault done id rest after unopposed splits ofLanguage (by simpa using puts)

/-! ## Publishing names -/

theorem globals_setGlobal (store : Store) (module other name : String) (value : Value) :
    ((Change.setGlobal module name value).apply store).globals other =
      if other = module then Entries.put (store.globals module) name value
      else store.globals other := by
  rw [Change.apply, modifyModule, Store.globals, Entries.lookup_put]
  by_cases same : other = module <;> simp [same, Store.globals]

/-- If equipping succeeds, the method was put on every host type. -/
theorem equip_eq_ok {before after : Store} {spans : SourceMap}
    (expected : Expected before generation)
    (carries : before.Shows (generation.extensionMethod.getD .absent))
    (equips : (equip machine generation spans).run before = (.ok (), after)) :
    PutsOn generation.method (generation.extensionMethod.getD .absent)
      (generation.implementations.map Prod.fst).reverse before after := by
  obtain ⟨_, _, again, ends⟩ := run_equip machine spans expected carries
  rw [equips] at again
  cases again
  cases ends with
  | equipped _ _ puts => exact puts

/-- Binding names in a module changes nothing else. -/
theorem run_publish (store : Store) (home : String) (names : List (String × Value)) :
    ∃ after, (forEach names fun (name, value) => perform (.setGlobal home name value)).run store =
        (.ok (), after) ∧
      after = { store with modules := after.modules } ∧
      ∀ module, after.globals module =
        if module = home then Entries.putAll (store.globals home) names
        else store.globals module := by
  induction names generalizing store with
  | nil => exact ⟨store, rfl, rfl, fun module => by split <;> simp_all [Entries.putAll]⟩
  | cons entry rest ih =>
    obtain ⟨name, value⟩ := entry
    obtain ⟨after, binds, same, isAfter⟩ := ih ((Change.setGlobal home name value).apply store)
    refine ⟨after, binds, same, fun module => ?_⟩
    rw [isAfter, globals_setGlobal, globals_setGlobal]
    split <;> simp [Entries.putAll]

/-- The names of a generation are bound in its module, if that is loaded. -/
def publish (generation : Generation) : Action Unit := do
  let store ← Action.store
  if (store.moduleNames? generation.home).isSome then
    forEach (generation.published store) fun (name, value) =>
      perform (.setGlobal generation.home name value)
  else done ()

theorem run_publish_generation (generation : Generation) (store : Store) :
    ∃ after, (publish generation).run store = (.ok (), after) ∧
      after = { store with modules := after.modules } ∧
      ∀ module, after.globals module =
        if module = generation.home ∧ (store.moduleNames? generation.home).isSome then
          Entries.putAll (store.globals module) (generation.published store)
        else store.globals module := by
  simp only [publish, bind_eq, run_store_bind]
  split
  · rename_i isLoaded
    obtain ⟨after, binds, rest, isAfter⟩ :=
      run_publish store generation.home (generation.published store)
    refine ⟨after, binds, rest, fun module => ?_⟩
    rw [isAfter module]
    by_cases isHome : module = generation.home <;> simp [isHome, isLoaded]
  · rename_i notLoaded
    exact ⟨store, rfl, rfl, fun module => by rw [if_neg fun both => notLoaded both.2]⟩

/-- What publishing leaves. -/
theorem publish_eq_ok {before after : Store}
    (publishes : (publish generation).run before = (.ok (), after)) :
    after = { before with modules := after.modules } ∧
      ∀ module, after.globals module =
        if module = generation.home ∧ (before.moduleNames? generation.home).isSome then
          Entries.putAll (before.globals module) (generation.published before)
        else before.globals module := by
  obtain ⟨_, again, ends⟩ := run_publish_generation generation before
  rw [publishes] at again
  cases again
  exact ends

/-! ## The whole installation -/

/-- How an installation can end. -/
inductive Ends (before : Store) (generation : Generation) : Except Fault Unit → Store → Prop
  /-- A conflict was found, and nothing was changed. -/
  | refused (fault : Fault) (marks : Nat) :
    Ends before generation (.error fault) { before with marks }
  /-- A host type does not take the method. -/
  | stopped (fault : Fault) (done : List ClassId) (id : ClassId) (rest : List ClassId)
      (after : Store) (unopposed : Unopposed before generation)
      (splits : generation.implementations.map Prod.fst = done ++ id :: rest)
      (ofLanguage : id.home = "builtins")
      (puts : PutsOn generation.method (generation.extensionMethod.getD .absent) done.reverse
        before after) :
    Ends before generation (.error fault) after
  /-- The method was put on every host type, and the names of a loaded module were bound. -/
  | installed (between after : Store) (unopposed : Unopposed before generation)
      (puts : PutsOn generation.method (generation.extensionMethod.getD .absent)
        (generation.implementations.map Prod.fst).reverse before between)
      (rest : after = { between with modules := after.modules })
      (binds : ∀ module, after.globals module =
        if module = generation.home ∧ (before.moduleNames? generation.home).isSome then
          Entries.putAll (before.globals module) (generation.published before)
        else before.globals module) :
    Ends before generation (.ok ()) after

/-- An installation first equips the host types, and then publishes. -/
theorem install_eq (machine : Machine) (generation : Generation) (spans : SourceMap) :
    install machine generation spans =
      (equip machine generation spans).bind fun _ => publish generation := by
  simp only [install, equip, publish, bind_eq, Action.bind_assoc]
  congr
  funext conflict
  cases conflict with
  | none => simp only [Action.bind_assoc]
  | some conflict => rfl

theorem run_install {before : Store} (machine : Machine) (spans : SourceMap)
    (expected : Expected before generation) (carries : before.Shows (generation.extensionMethod.getD .absent)) :
    ∃ outcome after, (install machine generation spans).run before = (outcome, after) ∧
      Ends before generation outcome after := by
  obtain ⟨outcome, between, equips, ends⟩ := run_equip machine spans expected carries
  rw [install_eq]
  cases ends with
  | refused fault marks => exact ⟨_, _, run_bind_of_error equips _, .refused fault marks⟩
  | stopped fault done id rest _ unopposed splits ofLanguage puts =>
    exact ⟨_, between, run_bind_of_error equips _,
      .stopped fault done id rest between unopposed splits ofLanguage puts⟩
  | equipped _ unopposed puts =>
    have sameModules : between.modules = before.modules := by rw [puts.rest]
    have sameLoaded : between.moduleNames? generation.home =
        before.moduleNames? generation.home := by rw [moduleNames?, moduleNames?, sameModules]
    have sameNames : generation.published between = generation.published before := by
      simp only [Generation.published, puts.alike.className_eq]
    have sameGlobals : ∀ module, between.globals module = before.globals module := by
      intro module
      rw [Store.globals, Store.globals, sameModules]
    obtain ⟨after, publishes, rest, binds⟩ := run_publish_generation generation between
    rw [run_bind_of_ok equips, publishes]
    refine ⟨_, after, rfl, .installed between after unopposed puts rest fun module => ?_⟩
    rw [binds, sameLoaded, sameNames, sameGlobals]

end Action

end Deferred
