import Deferred.Proofs.Installing

/-!
# What installing leaves alone

An installation that fails leaves the host types and the modules as they were, unless it is stopped
by a host type of the language itself after the method was put on another one.  And whatever comes
of it, it does not replace what no generation made: neither what a module has under a name nor what
a host type has, of its own or from a class above it.  Absence is the one thing it does replace.
-/

namespace Deferred

open Store Action

namespace Store

variable {changed : List String} {before between after : Store}

/-- No module that is installed says of itself that a generation made it. -/
theorem unmarked_installedExports (module : String) :
    Entries.get? (Host.installedExports module) generatedMark = none := by
  rw [Entries.get?_eq_none_iff, Host.installedExports, Entries.keys, List.map_append,
    List.map_append, List.mem_append, List.mem_append, not_or, not_or]
  have markers : ∀ entry ∈ Host.referenceMarkers, entry.1 ≠ generatedMark := by decide
  have shared : ∀ entry ∈ Host.sharedNames, entry.2.1 ≠ generatedMark := by decide
  have forms : ∀ entry ∈ Host.typeForms, entry.1 ≠ generatedMark := by decide
  refine ⟨⟨fun isMarker => ?_, fun isShared => ?_⟩, fun isForm => ?_⟩
  · obtain ⟨entry, isEntry, isMark⟩ := List.mem_map.mp isMarker
    exact markers entry (List.mem_filter.mp isEntry).1 isMark
  · simp only [List.map_map, List.mem_map, Function.comp_apply] at isShared
    obtain ⟨entry, isEntry, isMark⟩ := isShared
    exact shared entry (List.mem_filter.mp isEntry).1 isMark
  · split at isForm
    · obtain ⟨entry, isEntry, isMark⟩ := List.mem_map.mp isForm
      exact forms entry isEntry isMark
    · cases isForm

/-- A module was made by a generation if its names say so. -/
theorem isGenerated_module (store : Store) (module : String) :
    store.isGenerated (.module module) =
      ((Entries.get? (store.globals module) generatedMark).map store.isTrue).getD false := by
  rw [isGenerated, Store.globals]
  cases store.modules.made.lookup module with
  | none => simp [unmarked_installedExports]
  | some names => rfl

theorem Alike.isTrue_eq (alike : Alike changed before after) (value : Value) :
    after.isTrue value = before.isTrue value := by
  cases value <;> simp only [isTrue, object?, cell?, entriesOf?, objectOf?, alike.cells]

/-- What was made by a generation is so wherever the marks are the same. -/
theorem Alike.isGenerated_eq (alike : Alike changed before after) (value : Value) :
    after.isGenerated value = before.isGenerated value := by
  have free : generatedMark ∉ changed := alike.special_notMem (by decide)
  have sameTruth : after.isTrue = before.isTrue := funext alike.isTrue_eq
  cases value with
  | module module =>
    rw [isGenerated_module, isGenerated_module, alike.globals module _ free, sameTruth]
  | _ =>
    simp only [isGenerated, alike.ownAttribute?_eq, alike.classes _ _ free, sameTruth]

theorem Alike.answers_eq (alike : Alike changed before after) (value : Value) {name : String}
    (free : name ∉ changed) : after.answers value name = before.answers value name := by
  rw [answers, answers, alike.attribute?_eq value free]

/-! ## What no generation made -/

/-- A name of a module stands for something that no generation made. -/
structure ForeignGlobal (store : Store) (module name : String) (value : Value) : Prop where
  stands : Entries.get? (store.globals module) name = some value
  present : value.isPresent = true
  unmarked : store.isGenerated value = false

/-- A class has something under a name, of its own or from a class above it, that no generation put
there. -/
structure ForeignAttribute (store : Store) (id : ClassId) (name : String) (value : Value) :
    Prop where
  stands : store.attribute? (.cls id) name = some value
  present : value.isPresent = true
  unmarked : store.answers value extensionMark = false

end Store

namespace Action

variable {before after : Store} {machine : Machine} {generation : Generation} {spans : SourceMap}
  {outcome : Except Fault Unit} {fault : Fault} {module name : String} {id : ClassId}
  {value : Value}

/-! ## A sample -/

/-- A module with a routine `pay` that takes an amount, and a host root whose world is a class of
the language itself. -/
def amountStore (globals : Namespace) : Store where
  modules :=
    { made := [("game_mod", globals),
        ("rigid", Entries.put Host.referenceMarkers "World" (.cls ClassId.int))]
      listed := ["game_mod", "rigid"] }
  cells := #[
    { object := .dict [(.ofText "amount", .ofText "str")] },
    { object := .function
        { name := "pay", qualname := "pay", home := .ofText "game_mod", doc := .absent
          parameters := [.plain "amount"]
          annotations := .object ClassId.dict 0
          body := .inert } }]

/-- Decorating the routine in such a module. -/
def decoratePay (raw : Options.Raw) : Action (Plan × Generation) :=
  generateAndInstall (Action.machine 20) (.object ClassId.function 1) raw false

/-- A module in which the name of the record stands for another class. -/
def takenGlobals : Namespace := [("PayCommand", .cls ClassId.entity)]

/-- What is generated for the routine in that module, and the store that is left. -/
def takenGeneration : Generation × Store :=
  answerOf (do generate (Action.machine 20) (← planFor (.object ClassId.function 1) [] false))
    (amountStore takenGlobals)

/-- Installing it, and the store that is left. -/
def installTaken : Except Fault Unit × Store :=
  (install (Action.machine 20) takenGeneration.1 default).run takenGeneration.2

theorem run_install_taken :
    (install (Action.machine 20) takenGeneration.1 default).run takenGeneration.2 =
      (installTaken.1, installTaken.2) :=
  (Prod.eta installTaken).symm

/-- Nothing runs while a generation is installed: no function answers for the host types, which have
nothing under the name of the method, or for the method. -/
def isStill (store : Store) (generation : Generation) : Bool :=
  let method := generation.extensionMethod.getD .absent
  !isSpecial generation.method &&
  (generation.published store).all (fun entry => !isSpecial entry.1) &&
  generation.implementations.all (fun entry =>
    (special? store (.cls entry.1) "__getattribute__").isNone &&
    (special? store (.cls entry.1) "__getattr__").isNone &&
    (store.attribute? (.cls entry.1) generation.method).isNone) &&
  (special? store method "__getattribute__").isNone &&
  (special? store method "__getattr__").isNone &&
  store.answers method extensionMark

theorem expected_of_isStill (still : isStill before generation = true) :
    Expected before generation ∧ before.Shows (generation.extensionMethod.getD .absent) := by
  simp only [isStill, Bool.and_eq_true, Bool.not_eq_true', List.all_eq_true,
    Option.isNone_iff_eq_none] at still
  obtain ⟨⟨⟨⟨⟨method, published⟩, types⟩, every⟩, missing⟩, marked⟩ := still
  refine ⟨⟨method, published, fun entry isEntry => ?_⟩, ⟨every, missing⟩, fun _ => marked⟩
  obtain ⟨⟨every, missing⟩, nothing⟩ := types entry isEntry
  refine ⟨⟨every, missing⟩, fun there isThere => ?_⟩
  rw [nothing] at isThere
  cases isThere

theorem takenGeneration_isStill :
    isStill takenGeneration.2 takenGeneration.1 = true ∧
      takenGeneration.1.implementations.map Prod.fst = [ClassId.commands, ClassId.world] ∧
      ClassId.world ∉ takenGeneration.2.ancestors ClassId.commands ∧ installTaken.1.isOk = false ∧
      (Entries.get? (takenGeneration.2.globals "game_mod") "PayCommand").any
        (·.isClass ClassId.entity) = true ∧
      takenGeneration.2.isGenerated (.cls ClassId.entity) = false := by
  decide +kernel

/-! ## Failed installations -/

/-- An installation that fails leaves every attribute of a class and every name of a module as it
was, if no host type but the first one belongs to the language itself. -/
theorem failed_install_keeps (expected : Expected before generation)
    (carries : before.Shows (generation.extensionMethod.getD .absent))
    (takes : ∀ entry ∈ generation.implementations.tail, entry.1.home ≠ "builtins")
    (runs : (install machine generation spans).run before = (.error fault, after)) :
    (∀ id name, after.classAttribute? id name = before.classAttribute? id name) ∧
      after.modules = before.modules := by
  obtain ⟨outcome, last, installs, ends⟩ := run_install machine spans expected carries
  rw [runs] at installs
  cases installs
  cases ends with
  | refused => exact ⟨fun _ _ => rfl, rfl⟩
  | stopped fault done id rest _ unopposed splits ofLanguage puts =>
    have first : done = [] := by
      cases done with
      | nil => rfl
      | cons head others =>
        have inTail : id ∈ (generation.implementations.map Prod.fst).tail := by simp [splits]
        rw [← List.map_tail] at inTail
        obtain ⟨entry, isEntry, rfl⟩ := List.mem_map.mp inTail
        exact absurd ofLanguage (takes entry isEntry)
    subst first
    refine ⟨fun other part => ?_, by rw [puts.rest]⟩
    by_cases isMethod : part = generation.method
    · rw [isMethod, puts.own other]
      simp
    · exact puts.alike.classes other part (by simpa using isMethod)

/-- Where the name of the record is taken, the installation fails, and the host types and the
modules are as they were. -/
theorem failed_install_keeps_taken :
    ∃ fault, installTaken.1 = .error fault ∧
      (∀ id name, installTaken.2.classAttribute? id name =
        takenGeneration.2.classAttribute? id name) ∧
      installTaken.2.modules = takenGeneration.2.modules := by
  obtain ⟨still, types, -, fails, -⟩ := takenGeneration_isStill
  obtain ⟨expected, carries⟩ := expected_of_isStill still
  have takes : ∀ entry ∈ takenGeneration.1.implementations.tail, entry.1.home ≠ "builtins" := by
    intro entry isEntry
    have isWorld : entry.1 ∈ [ClassId.world] := by
      have inTail := List.mem_map_of_mem (f := Prod.fst) isEntry
      rwa [List.map_tail, types] at inTail
    rw [List.mem_singleton.mp isWorld]
    decide
  cases outcome : installTaken.1 with
  | ok _ =>
    rw [outcome] at fails
    cases fails
  | error fault =>
    have runs := run_install_taken
    rw [outcome] at runs
    exact ⟨fault, rfl, failed_install_keeps expected carries takes runs⟩

/-- A host type of the language itself stops an installation after the first host type got the
method: the decoration fails, and the method stays. -/
theorem stopped_install_leaves_method :
    ((decoratePay [("ecs", .ofText "rigid")]).run (amountStore [])).1.isOk = false ∧
      ((amountStore []).classAttribute? ClassId.commands "pay").isSome = false ∧
      (((decoratePay [("ecs", .ofText "rigid")]).run (amountStore [])).2.classAttribute?
        ClassId.commands "pay").isSome = true := by
  decide +kernel

/-! ## What stays -/

/-- However an installation ends, nothing changed but what classes have under the name of the
method and what modules have under the published names. -/
theorem Ends.alike (ends : Ends before generation outcome after)
    (expected : Expected before generation) :
    Alike (generation.method :: (generation.published before).map Prod.fst) before after := by
  have plain : ∀ name ∈ generation.method :: (generation.published before).map Prod.fst,
      isSpecial name = false := by
    refine List.forall_mem_cons.mpr ⟨expected.method, fun name isName => ?_⟩
    obtain ⟨entry, isEntry, rfl⟩ := List.mem_map.mp isName
    exact expected.published entry isEntry
  have ofMethod : ∀ {ids between},
      PutsOn generation.method (generation.extensionMethod.getD .absent) ids before between →
        Alike (generation.method :: (generation.published before).map Prod.fst) before between :=
    fun puts => puts.alike.mono (by simp) plain
  cases ends with
  | refused fault marks => exact .of_marks plain before marks before.notices
  | stopped fault done id rest _ unopposed splits ofLanguage puts => exact ofMethod puts
  | installed between _ unopposed puts rest binds =>
    have sameGlobals : ∀ module, between.globals module = before.globals module := by
      intro module
      rw [Store.globals, Store.globals, puts.rest]
    refine (ofMethod puts).trans ⟨by rw [rest], by rw [rest], by rw [rest], plain,
      fun _ _ _ => by rw [rest]; rfl, fun module name free => ?_⟩
    rw [binds, sameGlobals]
    split
    · exact Entries.get?_putAll_of_notMem fun isPublished =>
        free (List.mem_cons_of_mem _ isPublished)
    · rfl

/-- What a module has and no generation made keeps its name, however an installation ends. -/
theorem install_keeps_global (expected : Expected before generation)
    (carries : before.Shows (generation.extensionMethod.getD .absent))
    (foreign : before.ForeignGlobal module name value)
    (runs : (install machine generation spans).run before = (outcome, after)) :
    after.ForeignGlobal module name value := by
  obtain ⟨_, _, installs, ends⟩ := run_install machine spans expected carries
  rw [runs] at installs
  cases installs
  have alike := ends.alike expected
  refine ⟨?_, foreign.present, by rw [alike.isGenerated_eq, foreign.unmarked]⟩
  rw [← foreign.stands]
  cases ends with
  | refused => rfl
  | stopped fault done id rest _ unopposed splits ofLanguage puts =>
    rw [Store.globals, Store.globals, puts.rest]
  | installed between _ unopposed puts rest binds =>
    rw [binds]
    split
    · rename_i isHome
      obtain ⟨rfl, isLoaded⟩ := isHome
      refine Entries.get?_putAll_of_notMem fun isPublished => ?_
      -- A name that is bound stands for nothing, or for something that was generated.
      obtain ⟨entry, isEntry, rfl⟩ := List.mem_map.mp isPublished
      have isThere : before.attribute? (.module generation.home) entry.1 = some value := by
        have stands := foreign.stands
        rw [Store.globals] at stands
        simp only [Store.attribute?, stands]
      have generated := unopposed.bindable isLoaded entry isEntry value isThere foreign.present
      rw [foreign.unmarked] at generated
      cases generated
    · rfl

/-- Putting a method on classes that nothing is in the way on leaves what no generation put on a
class, as long as none of them is above the class but the class itself. -/
theorem putsOn_keeps_attribute {between : Store} {ids : List ClassId} {content : Value}
    (puts : PutsOn generation.method content ids before between)
    (unopposed : Unopposed before generation)
    (among : ∀ id ∈ ids, id ∈ generation.implementations.map Prod.fst)
    (apart : ∀ entry ∈ generation.implementations, entry.1 ∈ before.ancestors id → entry.1 = id)
    (foreign : before.ForeignAttribute id name value) :
    between.attribute? (.cls id) name = some value := by
  rw [← foreign.stands]
  by_cases isMethod : name = generation.method
  · subst isMethod
    refine puts.attribute?_of_apart fun parent isAbove isOne => ?_
    obtain ⟨entry, isEntry, rfl⟩ := List.mem_map.mp (among parent isOne)
    -- The method may be put on the class itself only if it replaces another method.
    have marked := unopposed.replaceable entry isEntry value
      (apart entry isEntry isAbove ▸ foreign.stands) foreign.present
    rw [foreign.unmarked] at marked
    cases marked
  · exact puts.alike.attribute?_eq _ (by simpa using isMethod)

/-- What a class has and no generation put there stays, however an installation ends, as long as no
host type is above the class but the class itself. -/
theorem install_keeps_attribute (expected : Expected before generation)
    (carries : before.Shows (generation.extensionMethod.getD .absent))
    (apart : ∀ entry ∈ generation.implementations, entry.1 ∈ before.ancestors id → entry.1 = id)
    (foreign : before.ForeignAttribute id name value)
    (runs : (install machine generation spans).run before = (outcome, after)) :
    after.ForeignAttribute id name value := by
  obtain ⟨_, _, installs, ends⟩ := run_install machine spans expected carries
  rw [runs] at installs
  cases installs
  have alike := ends.alike expected
  have unmarked : after.answers value extensionMark = false := by
    rw [alike.answers_eq value (alike.special_notMem (by decide)), foreign.unmarked]
  refine ⟨?_, foreign.present, unmarked⟩
  cases ends with
  | refused fault marks => rw [attribute?_marks, foreign.stands]
  | stopped fault done stopping rest _ unopposed splits ofLanguage puts =>
    refine putsOn_keeps_attribute puts unopposed (fun other isDone => ?_) apart foreign
    rw [splits]
    exact List.mem_append_left _ (List.mem_reverse.mp isDone)
  | installed between _ unopposed puts rest binds =>
    have kept := putsOn_keeps_attribute puts unopposed
      (fun other isOne => List.mem_reverse.mp isOne) apart foreign
    have sameClasses : after.attribute? (.cls id) name = between.attribute? (.cls id) name := by
      simp only [Store.attribute?]
      rw [rest]
      rfl
    rw [sameClasses, kept]

/-! ## Any number of decorations -/

/-- Whatever no generation made is still there: what modules have under their names, and what the
host types have. -/
structure Spares (types : List ClassId) (before after : Store) : Prop where
  globals : ∀ module name value, before.ForeignGlobal module name value →
    after.ForeignGlobal module name value
  attributes : ∀ id ∈ types, ∀ name value, before.ForeignAttribute id name value →
    after.ForeignAttribute id name value

namespace Spares

variable {types : List ClassId} {between : Store}

theorem refl (store : Store) : Spares types store store :=
  ⟨fun _ _ _ foreign => foreign, fun _ _ _ _ foreign => foreign⟩

theorem trans (first : Spares types before between) (second : Spares types between after) :
    Spares types before after where
  globals module name value foreign :=
    second.globals module name value (first.globals module name value foreign)
  attributes id isType name value foreign :=
    second.attributes id isType name value (first.attributes id isType name value foreign)

end Spares

/-- Stores that decorations lead to, one after the other.  What is generated for a decoration leaves
what no generation made alone; then it is installed, and whatever comes of that, the next decoration
may follow. -/
inductive Decorates (types : List ClassId) : Store → Store → Prop
  | start (store : Store) : Decorates types store store
  | another {first before between after : Store} {machine : Machine} {generation : Generation}
      {spans : SourceMap} {outcome : Except Fault Unit} (sofar : Decorates types first before)
      (generates : Spares types before between) (expected : Expected between generation)
      (carries : between.Shows (generation.extensionMethod.getD .absent))
      (apart : ∀ id ∈ types, ∀ entry ∈ generation.implementations,
        entry.1 ∈ between.ancestors id → entry.1 = id)
      (installs : (install machine generation spans).run between = (outcome, after)) :
    Decorates types first after

/-- Decorations, however many and however they end, never replace what no generation made. -/
theorem decorations_spare {types : List ClassId} (decorates : Decorates types before after) :
    Spares types before after := by
  induction decorates with
  | start => exact .refl _
  | another sofar generates expected carries apart installs ih =>
    refine (ih.trans generates).trans ⟨fun module name value foreign => ?_,
      fun id isType name value foreign => ?_⟩
    · exact install_keeps_global expected carries foreign installs
    · exact install_keeps_attribute expected carries (apart id isType) foreign installs

/-- The class in the way of the record keeps its name. -/
theorem decorations_spare_taken :
    Entries.get? (installTaken.2.globals "game_mod") "PayCommand" = some (.cls ClassId.entity) := by
  obtain ⟨still, types, notAbove, -, isTaken, unmarked⟩ := takenGeneration_isStill
  obtain ⟨expected, carries⟩ := expected_of_isStill still
  obtain ⟨value, stands, isClass⟩ := (Option.any_eq_true _ _).mp isTaken
  obtain rfl := Value.eq_cls_of_isClass isClass
  have apart : ∀ id ∈ [ClassId.commands], ∀ entry ∈ takenGeneration.1.implementations,
      entry.1 ∈ takenGeneration.2.ancestors id → entry.1 = id := by
    intro id isType entry isEntry isAbove
    obtain rfl := List.mem_singleton.mp isType
    have isHost : entry.1 ∈ [ClassId.commands, ClassId.world] :=
      types ▸ List.mem_map.mpr ⟨entry, isEntry, rfl⟩
    rcases List.mem_pair.mp isHost with isCommands | isWorld
    · exact isCommands
    · exact absurd (isWorld ▸ isAbove) notAbove
  have spares := decorations_spare
    (.another (.start _) (.refl _) expected carries apart run_install_taken)
  exact (spares.globals "game_mod" "PayCommand" _ ⟨stands, rfl, unmarked⟩).stands

/-- A name that stands for nothing but absence is bound to the record, although no generation made
it. -/
theorem absence_is_replaced :
    Entries.get? ((amountStore [("PayCommand", .absent)]).globals "game_mod") "PayCommand" =
        some .absent ∧
      ((decoratePay []).run (amountStore [("PayCommand", .absent)])).1.isOk = true ∧
      (Entries.get? (((decoratePay []).run (amountStore [("PayCommand", .absent)])).2.globals
        "game_mod") "PayCommand").any Value.isPresent = true := by
  refine ⟨rfl, ?_⟩
  decide +kernel

end Action

end Deferred
