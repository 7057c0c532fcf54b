import Deferred.Proofs.Decorating
import Deferred.Proofs.DerivedNames

/-!
# Published names

A decoration binds its record and its extension in the module of its routine, under names that are
derived from the method name where keywords leave them open.  After any number of decorations a name
stands for what was made by the last one that derived it.  So a record or an extension is lost where
a later method derives the same name, which methods may do that are written differently.
-/

namespace Deferred

open Store Action

/-- What a module has under a name. -/
def Store.global? (store : Store) (module name : String) : Option Value :=
  Entries.get? (store.globals module) name

namespace Action

variable {before after : Store} {value content : Value} {module name other : String}

/-! ## Telling of what was generated -/

theorem global?_setFunctionAttribute {place : Ref} {function : FunctionObject}
    (runs : (setFunctionAttribute value place function name content).run before = (.ok (), after)) :
    after.global? module other = before.global? module other := by
  simp only [setFunctionAttribute, newDict, bind_eq, run_store_bind] at runs
  repeat' split at runs
  all_goals cases runs
  all_goals rfl

/-- Setting an attribute of a value binds no other name in a module. -/
theorem global?_setAttribute (apart : other ≠ name)
    (runs : (setAttribute value name content).run before = (.ok (), after)) :
    after.global? module other = before.global? module other := by
  cases value with
  | cls id =>
    obtain rfl := Code.setClassAttribute_eq_ok id runs
    rfl
  | module owner =>
    cases runs
    rw [Store.global?, Store.global?, globals_setGlobal]
    split
    · rename_i same
      rw [same, Entries.get?_put_of_ne _ _ apart]
    · rfl
  | object id place =>
    simp only [setAttribute, bind_eq, run_store_bind] at runs
    repeat' split at runs
    all_goals first
      | exact global?_setFunctionAttribute runs
      | cases runs; rfl
      | cases runs
  | _ => cases runs

end Action

namespace Decoration

variable {decoration : Decoration} {before between after : Store} {plan : Plan}
  {generation answer : Generation} {module name : String}

/-- The last steps of telling: the description of what was generated is made and put on the public
routine. -/
theorem tell_eq_ok (runs : (tell plan generation).run before = (.ok answer, after)) :
    answer = generation ∧ ∃ artifact described, described.modules = before.modules ∧
      (setAttribute generation.routine artifactAttribute artifact).run described =
        (.ok (), after) := by
  simp only [tell, bind_eq, run_store_bind, run_perform_bind, run_bind_eq_ok] at runs
  obtain ⟨artifact, described, describes, ⟨⟩, last, sets, ends⟩ := runs
  cases ends
  obtain ⟨_, _, makes, adds⟩ := describing_newArtifact plan generation
    ((Change.notice (.generated (before.className generation.recordClass) generation.qualname
      generation.mode (generation.extensionClass.map before.className))).apply before)
  rw [describes] at makes
  cases makes
  exact ⟨rfl, artifact, described, adds.modules, sets⟩

/-- Telling of what was generated leaves what modules have, but for the name that leads to it. -/
theorem global?_tell (apart : name ≠ artifactAttribute)
    (runs : (tell plan generation).run before = (.ok answer, after)) :
    after.global? module name = before.global? module name := by
  obtain ⟨-, artifact, described, same, sets⟩ := tell_eq_ok runs
  rw [global?_setAttribute apart sets, Store.global?, Store.global?, Store.globals, Store.globals,
    same]

/-! ## The steps of a decoration -/

/-- What a decoration does before it publishes: it generates a command and equips the host types. -/
def prepares (decoration : Decoration) : Action (Plan × Generation) :=
  decoration.plans.bind fun plan => (decoration.generates plan).bind fun generation =>
    (equip (Action.machine decoration.depth) generation plan.signature.spans).bind fun _ =>
      done (plan, generation)

theorem generateAndInstall_eq (decoration : Decoration) :
    generateAndInstall (Action.machine decoration.depth) decoration.routine decoration.keywords
      decoration.forEntity =
      decoration.prepares.bind fun made => (publish made.2).bind fun _ => done made := by
  simp only [generateAndInstall, prepares, bind_eq, Action.bind_assoc, install_eq, done_bind]
  rfl

/-- A decoration that succeeds prepares a command, publishes it and tells of it. -/
theorem run_eq_ok (runs : decoration.run.run before = (.ok generation, after)) :
    ∃ plan between published, decoration.prepares.run before = (.ok (plan, generation), between) ∧
      (publish generation).run between = (.ok (), published) ∧
      (tell plan generation).run published = (.ok generation, after) := by
  rw [Decoration.run, decorate, bind_eq, run_bind_of_ok (run_attempt _ _)] at runs
  cases ran : (generateAndInstall (Action.machine decoration.depth) decoration.routine
      decoration.keywords decoration.forEntity).run before with
  | mk outcome published =>
    rw [ran] at runs
    cases outcome with
    | error fault => cases fault <;> cases runs
    | ok made =>
      obtain ⟨plan, made⟩ := made
      change (tell plan made).run published = _ at runs
      obtain ⟨rfl, -⟩ := tell_eq_ok runs
      rw [generateAndInstall_eq, run_bind_eq_ok] at ran
      obtain ⟨prepared, between, prepares, ran⟩ := ran
      rw [run_bind_eq_ok] at ran
      obtain ⟨⟨⟩, last, publishes, ends⟩ := ran
      cases ends
      exact ⟨plan, between, published, prepares, publishes, runs⟩

/-- The plan and the generation that were prepared. -/
theorem prepares_eq_ok
    (prepares : decoration.prepares.run before = (.ok (plan, generation), between)) :
    decoration.plans.run before = (.ok plan, before) ∧ ∃ generated,
      (decoration.generates plan).run before = (.ok generation, generated) ∧
      (equip (Action.machine decoration.depth) generation plan.signature.spans).run generated =
        (.ok (), between) := by
  have unchanged : (decoration.plans.run before).2 = before := planFor_run _ _ _ before
  rw [Decoration.prepares, run_bind_eq_ok] at prepares
  obtain ⟨planned, same, plans, prepares⟩ := prepares
  obtain rfl : same = before := by rw [← unchanged, plans]
  simp only [run_bind_eq_ok] at prepares
  obtain ⟨made, generated, generates, ⟨⟩, last, equips, ends⟩ := prepares
  cases ends
  exact ⟨plans, generated, generates, equips⟩

/-! ## Undisturbed decorations -/

/-- A command was prepared as planned: its classes go by the names of the plan, its module is loaded,
and has what it had. -/
structure Prepared (before between : Store) (plan : Plan) (generation : Generation) : Prop where
  record : between.className generation.recordClass = plan.options.recordName
  extension : generation.extensionClass.map between.className =
    if plan.options.noExtension then none else some plan.options.extensionName
  loaded : (between.moduleNames? generation.home).isSome
  globals : between.globals generation.home = before.globals generation.home

/-- Nothing but its publication changes what the module of a decoration has. -/
def Undisturbed (decoration : Decoration) (before : Store) : Prop :=
  ∀ plan generation between, decoration.prepares.run before = (.ok (plan, generation), between) →
    Prepared before between plan generation

/-- A generation belongs to the module of its plan, and its method goes by the name that its options
chose. -/
theorem generates_eq_ok
    (generates : (decoration.generates plan).run before = (.ok generation, after)) :
    generation.home = plan.signature.home ∧ generation.method = plan.options.methodName := by
  rw [Decoration.generates, generate, bind_eq, run_bind_eq_ok] at generates
  obtain ⟨routed, between, shadows, assembles⟩ := generates
  have same : routed.signature = plan.signature ∧ routed.options = plan.options := by
    simp only [withShadow, bind_eq, run_store_bind] at shadows
    split at shadows
    · rw [run_bind_eq_ok] at shadows
      obtain ⟨shadow, last, -, ends⟩ := shadows
      cases ends
      exact ⟨rfl, rfl⟩
    · cases shadows
      exact ⟨rfl, rfl⟩
  rw [← same.1, ← same.2]
  split at assembles
  · simp only [assemble, bind_eq] at assembles
    split at assembles
    · rw [done_bind] at assembles
      split at assembles
      · cases assembles
      · simp only [done_bind, run_bind_eq_ok, run_store_bind] at assembles
        obtain ⟨_, _, -, _, _, -, _, _, -, _, _, -, _, _, -, ends⟩ := assembles
        cases ends
        exact ⟨rfl, rfl⟩
    · cases assembles
  · cases assembles

/-- A sound plan leads to a command as planned, if no function answers while the host types are
equipped. -/
theorem prepared_of_sound {function : FunctionObject} (sound : Code.Sound plan)
    (unnamed : ∀ field ∈ plan.fields, field.name ≠ "__name__") (intact : before.Intact)
    (isRoutine : before.IsRoutine plan.body function)
    (loaded : (before.moduleNames? plan.signature.home).isSome)
    (expected : ∀ generated, (decoration.generates plan).run before = (.ok generation, generated) →
      Expected generated generation)
    (prepares : decoration.prepares.run before = (.ok (plan, generation), between)) :
    Prepared before between plan generation := by
  obtain ⟨-, generated, generates, equips⟩ := prepares_eq_ok prepares
  obtain ⟨isHome, -⟩ := generates_eq_ok generates
  obtain ⟨root, isHost⟩ := sound.host
  obtain ⟨faithful, -⟩ := @Code.faithful_of_sound _ (HostTypes.reference root) _ _ _ _ _ _ isHost sound
    intact isRoutine generates
  obtain ⟨_, _, _, made⟩ := Code.generate_eq_ok sound intact isRoutine generates
  have puts := equip_eq_ok (expected generated generates) faithful.shows equips
  have sameModules : between.modules = before.modules := by
    rw [puts.rest]
    exact made.named.modules
  have sameNames : between.className = generated.className := funext puts.alike.className_eq
  refine ⟨?_, ?_, ?_, ?_⟩
  · rw [sameNames]
    exact made.named.record unnamed
  · rw [sameNames]
    exact made.named.extension
  · rw [moduleNames?, sameModules, isHome]
    exact loaded
  · rw [Store.globals, sameModules]
    rfl

/-- Can a decoration against the reference host be told to be undisturbed? -/
def isUndisturbed (root : String) (decoration : Decoration) (before : Store) : Bool :=
  isRegular root decoration before &&
  match (decoration.plans.run before).1 with
  | .error _ => true
  | .ok plan => plan.fields.all (·.name ≠ "__name__") &&
      (before.moduleNames? plan.signature.home).isSome

theorem undisturbed_of_isUndisturbed {root : String} (intact : before.Intact)
    (checked : isUndisturbed root decoration before = true) : Undisturbed decoration before := by
  rw [isUndisturbed, Bool.and_eq_true] at checked
  obtain ⟨regular, checked⟩ := checked
  obtain ⟨⟨function, isRoutine⟩, planned⟩ := planned_of_isRegular regular
  intro plan generation between prepares
  obtain ⟨plans, -⟩ := prepares_eq_ok prepares
  obtain ⟨sound, isBody, -, made, there, generates, calm⟩ := planned plan plans
  rw [plans] at checked
  simp only [Bool.and_eq_true, List.all_eq_true, decide_eq_true_eq] at checked
  refine prepared_of_sound sound checked.1 intact (isBody ▸ isRoutine) checked.2 ?_ prepares
  intro generated again
  rw [generates] at again
  cases again
  exact expected_of_isCalm calm

end Decoration

/-! ## Publications -/

/-- A decoration that succeeded, with what it generated. -/
structure Publication where
  decoration : Decoration
  generation : Generation

namespace Publication

/-- The name that the method derives for the record. -/
def recordName (publication : Publication) : String :=
  Options.derivedRecordName publication.decoration.forEntity publication.generation.method

/-- The name that the method derives for the extension. -/
def extensionName (publication : Publication) : String :=
  Options.derivedExtensionName publication.decoration.forEntity publication.generation.method

/-- Is an extension meant to be made? -/
def hasExtension (publication : Publication) : Bool :=
  !Options.isOn publication.decoration.keywords "no_trait"

/-- Do the keywords leave both names to be derived? -/
def isDerived (publication : Publication) : Bool :=
  Options.leavesOpen publication.decoration.keywords "struct_name" &&
    Options.leavesOpen publication.decoration.keywords "trait_name"

/-- The classes that are published under derived names. -/
def bindings (publication : Publication) : List (String × ClassId) :=
  (publication.recordName, publication.generation.recordClass) ::
    publication.generation.extensionClass.toList.map (publication.extensionName, ·)

/-- The derived names. -/
def names (publication : Publication) : List String := publication.bindings.map Prod.fst

variable {publication : Publication} {name : String} {plan : Plan} {before between after : Store}

theorem mem_names : name ∈ publication.names ↔ name = publication.recordName ∨
    publication.generation.extensionClass.isSome ∧ name = publication.extensionName := by
  rw [names, bindings]
  cases publication.generation.extensionClass <;> simp

theorem nodup_names (publication : Publication) : publication.names.Nodup := by
  have apart : publication.recordName ≠ publication.extensionName :=
    Options.derivedRecordName_ne_derivedExtensionName
  rw [names, bindings]
  cases publication.generation.extensionClass with
  | none => simp
  | some extension => simp [apart]

/-- A derived name is not the one that leads to what was generated. -/
theorem ne_artifactAttribute (isName : name ∈ publication.names) : name ≠ artifactAttribute := by
  rintro rfl
  rcases mem_names.mp isName with same | ⟨-, same⟩
  · have ends := congrArg (·.toList.getLast?) same
    rw [recordName, Options.getLast?_derivedRecordName] at ends
    exact absurd ends (by decide)
  · have ends := congrArg (·.toList.getLast?) same
    rw [extensionName, Options.getLast?_derivedExtensionName] at ends
    exact absurd ends (by decide)

/-- What a prepared command publishes are its classes under the derived names. -/
theorem published_eq (publication : Publication)
    (record : between.className publication.generation.recordClass = publication.recordName)
    (extension : ∀ id, publication.generation.extensionClass = some id →
      between.className id = publication.extensionName) :
    publication.generation.published between =
      publication.bindings.map fun entry => (entry.1, Value.ofClass entry.2) := by
  have entries : ((publication.generation.recordClass ::
        publication.generation.extensionClass.toList).map fun id =>
          (between.className id, Value.ofClass id)) =
      publication.bindings.map fun entry => (entry.1, Value.ofClass entry.2) := by
    rw [bindings, List.map_cons, List.map_cons, record]
    cases isThere : publication.generation.extensionClass with
    | none => rfl
    | some id => simp [extension id isThere]
  have apart := publication.nodup_names
  rw [Generation.published, entries, Entries.putAll_of_nodup, List.nil_append]
  simpa [names, Entries.keys, Function.comp_def] using apart

/-- What a decoration publishes that was prepared as planned: its classes under the names that it
derived, the extension unless it was left out. -/
theorem published_of_prepared (isDerived : publication.isDerived = true)
    (prepares : publication.decoration.prepares.run before =
      (.ok (plan, publication.generation), between))
    (prepared : Decoration.Prepared before between plan publication.generation) :
    publication.generation.published between =
        publication.bindings.map (fun entry => (entry.1, Value.ofClass entry.2)) ∧
      publication.generation.extensionClass.isSome = publication.hasExtension := by
  rw [Publication.isDerived, Bool.and_eq_true] at isDerived
  obtain ⟨plans, _, generates, -⟩ := Decoration.prepares_eq_ok prepares
  obtain ⟨-, isMethod⟩ := Decoration.generates_eq_ok generates
  obtain ⟨-, _, resolves⟩ := resolved_of_planFor plans
  obtain ⟨isRecord, isExtension⟩ := Options.derived_of_resolve isDerived.1 isDerived.2 resolves
  obtain ⟨noExtension, -⟩ := Options.leavesOut_of_resolve resolves
  have ofExtension := prepared.extension
  constructor
  · refine published_eq publication (prepared.record.trans ?_) fun id isThere => ?_
    · rw [isRecord, recordName, isMethod]
    · rw [isThere, Option.map_some] at ofExtension
      split at ofExtension
      · cases ofExtension
      · rw [Option.some.inj ofExtension, isExtension, extensionName, isMethod]
  · have isMade := congrArg Option.isSome ofExtension
    rw [Option.isSome_map] at isMade
    rw [isMade, hasExtension, ← noExtension]
    cases plan.options.noExtension <;> rfl

/-- What a decoration leaves in its module: the classes that it made under the names that it derived,
and what was there under every other name. -/
theorem global?_of_run (isDerived : publication.isDerived = true)
    (undisturbed : publication.decoration.Undisturbed before)
    (runs : publication.decoration.run.run before = (.ok publication.generation, after)) :
    (∀ entry ∈ publication.bindings,
        after.global? publication.generation.home entry.1 = some (.ofClass entry.2)) ∧
      (∀ name ∉ publication.names, name ≠ artifactAttribute →
        after.global? publication.generation.home name =
          before.global? publication.generation.home name) ∧
      publication.generation.extensionClass.isSome = publication.hasExtension := by
  obtain ⟨plan, between, published, prepares, publishes, tells⟩ := Decoration.run_eq_ok runs
  have prepared := undisturbed plan _ between prepares
  obtain ⟨entries, hasExtension⟩ := published_of_prepared isDerived prepares prepared
  have inModule : published.globals publication.generation.home =
      Entries.putAll (before.globals publication.generation.home)
        (publication.bindings.map fun entry => (entry.1, Value.ofClass entry.2)) := by
    rw [(publish_eq_ok publishes).2, if_pos ⟨rfl, prepared.loaded⟩, entries, prepared.globals]
  have keys : Entries.keys (publication.bindings.map fun entry => (entry.1, Value.ofClass entry.2)) =
      publication.names := by
    simp [Entries.keys, names, Function.comp_def]
  refine ⟨fun entry isOne => ?_, fun name isOut apart => ?_, hasExtension⟩
  · rw [Decoration.global?_tell (ne_artifactAttribute (List.mem_map.mpr ⟨entry, isOne, rfl⟩)) tells,
      Store.global?, inModule]
    exact Entries.get?_putAll_of_mem (keys ▸ publication.nodup_names)
      (List.mem_map.mpr ⟨entry, isOne, rfl⟩)
  · rw [Decoration.global?_tell apart tells, Store.global?, inModule,
      Entries.get?_putAll_of_notMem (keys ▸ isOut), Store.global?]

/-- Publications whose extensions share a name have records that share a name, too. -/
theorem recordName_eq_of_extensionName_eq {other : Publication}
    (meets : other.extensionName = publication.extensionName) :
    other.recordName = publication.recordName := by
  obtain ⟨sameFlavour, sameWords⟩ := Options.derivedExtensionName_inj.mp meets
  rw [recordName, recordName, sameFlavour]
  exact Options.derivedRecordName_inj.mpr sameWords

end Publication

/-! ## Histories -/

/-- Decorations in one module that succeeded, the last one first, and the store that they leave.
Between them other things may happen that leave what was published alone. -/
inductive Publishes (module : String) : List Publication → Store → Prop where
  | start (store : Store) : Publishes module [] store
  | meanwhile {publications : List Publication} {before after : Store}
      (sofar : Publishes module publications before)
      (keeps : ∀ publication ∈ publications, ∀ name ∈ publication.names,
        after.global? module name = before.global? module name) :
    Publishes module publications after
  | another {publications : List Publication} {before after : Store} {publication : Publication}
      (sofar : Publishes module publications before)
      (isHome : publication.generation.home = module) (isDerived : publication.isDerived = true)
      (undisturbed : publication.decoration.Undisturbed before)
      (runs : publication.decoration.run.run before = (.ok publication.generation, after)) :
    Publishes module (publication :: publications) after

namespace Publication

/-- The record stands under the name that was derived for it. -/
def RecordStands (publication : Publication) (module : String) (store : Store) : Prop :=
  store.global? module publication.recordName = some (.ofClass publication.generation.recordClass)

/-- The extension stands under the name that was derived for it, unless it was left out. -/
def ExtensionStands (publication : Publication) (module : String) (store : Store) : Prop :=
  publication.hasExtension = true →
    ∃ extension, publication.generation.extensionClass = some extension ∧
      store.global? module publication.extensionName = some (.ofClass extension)

end Publication

namespace Publishes

variable {module : String} {publications later earlier : List Publication}
  {publication : Publication} {last : Store}

theorem isSome_extensionClass (history : Publishes module publications last)
    (isOne : publication ∈ publications) :
    publication.generation.extensionClass.isSome = publication.hasExtension := by
  induction history with
  | start => cases isOne
  | meanwhile sofar keeps ih => exact ih isOne
  | another sofar isHome isDerived undisturbed runs ih =>
    rcases List.mem_cons.mp isOne with rfl | isEarlier
    · exact (Publication.global?_of_run isDerived undisturbed runs).2.2
    · exact ih isEarlier

/-- A name stands for what the last decoration that derived it has made. -/
theorem global?_eq (history : Publishes module publications last)
    (splits : publications = later ++ publication :: earlier) {entry : String × ClassId}
    (isOne : entry ∈ publication.bindings) (others : ∀ other ∈ later, entry.1 ∉ other.names) :
    last.global? module entry.1 = some (.ofClass entry.2) := by
  have isName : entry.1 ∈ publication.names := List.mem_map.mpr ⟨entry, isOne, rfl⟩
  induction history generalizing later with
  | start => simp at splits
  | meanwhile sofar keeps ih =>
    rw [keeps publication (by simp [splits]) entry.1 isName, ih splits others]
  | another sofar isHome isDerived undisturbed runs ih =>
    obtain ⟨binds, spares, -⟩ := Publication.global?_of_run isDerived undisturbed runs
    subst isHome
    cases later with
    | nil =>
      obtain ⟨rfl, rfl⟩ := List.cons.inj splits
      exact binds entry isOne
    | cons other rest =>
      obtain ⟨rfl, rfl⟩ := List.cons.inj splits
      rw [spares entry.1 (others _ List.mem_cons_self) (Publication.ne_artifactAttribute isName)]
      exact ih rfl fun other isLater => others other (List.mem_cons_of_mem _ isLater)

/-- A record stands unless a later decoration derived the same name for a record. -/
theorem recordStands (history : Publishes module publications last)
    (splits : publications = later ++ publication :: earlier)
    (others : ∀ other ∈ later, other.recordName ≠ publication.recordName) :
    publication.RecordStands module last := by
  refine history.global?_eq splits List.mem_cons_self fun other isLater isName => ?_
  rcases Publication.mem_names.mp isName with meets | ⟨-, meets⟩
  · exact others other isLater meets.symm
  · exact Options.derivedRecordName_ne_derivedExtensionName meets

/-- An extension stands unless a later decoration derived the same name for an extension. -/
theorem extensionStands (history : Publishes module publications last)
    (splits : publications = later ++ publication :: earlier)
    (others : ∀ other ∈ later, other.hasExtension = true →
      other.extensionName ≠ publication.extensionName) :
    publication.ExtensionStands module last := by
  intro isExtended
  obtain ⟨extension, isThere⟩ := Option.isSome_iff_exists.mp
    ((history.isSome_extensionClass (by simp [splits])).trans isExtended)
  have isOne : (publication.extensionName, extension) ∈ publication.bindings := by
    simp [Publication.bindings, isThere]
  refine ⟨extension, isThere, history.global?_eq splits isOne fun other isLater isName => ?_⟩
  rcases Publication.mem_names.mp isName with meets | ⟨isMade, meets⟩
  · exact Options.derivedRecordName_ne_derivedExtensionName meets.symm
  · rw [history.isSome_extensionClass (by simp [splits, isLater])] at isMade
    exact others other isLater isMade meets.symm

/-- After any history, the record of a decoration stands under its name unless a later decoration
derived the same name for a record, and so does its extension unless a later one did for an
extension.  So where no two decorations derive the same name for their records, everything that was
published is still there. -/
theorem published_names_stand (history : Publishes module publications last) :
    (∀ later publication earlier, publications = later ++ publication :: earlier →
      ((∀ other ∈ later, other.recordName ≠ publication.recordName) →
        publication.RecordStands module last) ∧
      ((∀ other ∈ later, other.hasExtension = true →
          other.extensionName ≠ publication.extensionName) →
        publication.ExtensionStands module last)) ∧
    ((publications.map Publication.recordName).Nodup →
      ∀ publication ∈ publications, publication.RecordStands module last ∧
        publication.ExtensionStands module last) := by
  refine ⟨fun later publication earlier splits =>
    ⟨history.recordStands splits, history.extensionStands splits⟩, fun apart publication isOne => ?_⟩
  obtain ⟨later, earlier, splits⟩ := List.append_of_mem isOne
  have others : ∀ other ∈ later, other.recordName ≠ publication.recordName := by
    intro other isLater
    rw [splits, List.map_append, List.nodup_append] at apart
    exact apart.2.2 _ (List.mem_map_of_mem isLater) _ (List.mem_map_of_mem List.mem_cons_self)
  exact ⟨history.recordStands splits others, history.extensionStands splits fun other isLater _ meets =>
    others other isLater (Publication.recordName_eq_of_extensionName_eq meets)⟩

/-! ## Two decorations -/

/-- Can a decoration against the reference host be told to succeed undisturbed in a module, with
names that are derived? -/
def publishesIn (module : String) (decoration : Decoration) (before : Store) : Bool :=
  before.isIntact && (decoration.run.run before).1.isOk &&
  Decoration.isUndisturbed "commandify.prelude" decoration before &&
  (answerOf decoration.run before).1.home = module &&
  Options.leavesOpen decoration.keywords "struct_name" &&
  Options.leavesOpen decoration.keywords "trait_name"

theorem another_answerOf {decoration : Decoration} {before : Store}
    (sofar : Publishes module publications before)
    (checked : publishesIn module decoration before = true) :
    Publishes module (⟨decoration, (answerOf decoration.run before).1⟩ :: publications)
      (answerOf decoration.run before).2 := by
  simp only [publishesIn, Bool.and_eq_true, decide_eq_true_eq] at checked
  obtain ⟨⟨⟨⟨⟨intact, succeeds⟩, undisturbed⟩, isHome⟩, record⟩, extension⟩ := checked
  refine @Publishes.another _ _ _ _ ⟨decoration, _⟩ sofar isHome ?_
    (Decoration.undisturbed_of_isUndisturbed (intact_of_isIntact intact) undisturbed)
    (run_eq_answerOf succeeds)
  rw [Publication.isDerived, record, extension]
  rfl

/-- A routine of a name that takes the world. -/
def worldRoutine (name : String) : Object :=
  .function
    { name, qualname := name, home := .ofText "game_mod", doc := .absent
      parameters := [.plain "world"]
      annotations := .object ClassId.dict 0
      body := .inert
      names := [("World", .cls ClassId.world)] }

/-- A module in which two routines were defined. -/
def twoRoutines (first second : String) : Store where
  modules := { made := [("game_mod", [])], listed := ["game_mod"] }
  cells := #[
    { object := .dict [(.ofText "world", .ofText "World")] },
    { object := worldRoutine first },
    { object := worldRoutine second }]

/-- A decoration of one of them, without keywords. -/
def decoratesAt (place : Ref) : Decoration := ⟨20, .object ClassId.function place, [], false⟩

/-- What is generated for the first of them, and the store that is left. -/
def ofFirst (first second : String) : Generation × Store :=
  answerOf (decoratesAt 1).run (twoRoutines first second)

/-- What is then generated for the second one. -/
def ofSecond (first second : String) : Generation × Store :=
  answerOf (decoratesAt 2).run (ofFirst first second).2

/-- Both decorations with what was generated for them. -/
def publicationsOf (first second : String) : List Publication :=
  [⟨decoratesAt 2, (ofSecond first second).1⟩, ⟨decoratesAt 1, (ofFirst first second).1⟩]

/-- Do both decorations succeed undisturbed? -/
def isHistory (first second : String) : Bool :=
  publishesIn "game_mod" (decoratesAt 1) (twoRoutines first second) &&
    publishesIn "game_mod" (decoratesAt 2) (ofFirst first second).2

theorem of_isHistory {first second : String} (checked : isHistory first second = true) :
    Publishes "game_mod" (publicationsOf first second) (ofSecond first second).2 := by
  rw [isHistory, Bool.and_eq_true] at checked
  exact (Publishes.start (twoRoutines first second)).another_answerOf checked.1
    |>.another_answerOf checked.2

/-- The commands of `do_sub` and `pay` are both there, with their extensions. -/
theorem published_names_stand_pay :
    isHistory "do_sub" "pay" = true ∧
      ((publicationsOf "do_sub" "pay").map Publication.recordName).Nodup ∧
      (publicationsOf "do_sub" "pay").map Publication.recordName =
        ["PayCommand", "DoSubCommand"] ∧
      (publicationsOf "do_sub" "pay").Forall fun publication =>
        publication.RecordStands "game_mod" (ofSecond "do_sub" "pay").2 ∧
          publication.ExtensionStands "game_mod" (ofSecond "do_sub" "pay").2 := by
  have checked : isHistory "do_sub" "pay" = true ∧
      ((publicationsOf "do_sub" "pay").map Publication.recordName).Nodup ∧
      (publicationsOf "do_sub" "pay").map Publication.recordName =
        ["PayCommand", "DoSubCommand"] := by
    decide +kernel
  obtain ⟨isHistory, distinct, names⟩ := checked
  exact ⟨isHistory, distinct, names,
    List.forall_iff_forall_mem.mpr ((published_names_stand (of_isHistory isHistory)).2 distinct)⟩

/-- Methods that are written differently may derive the same names, and then the command of the first
is lost: `doSub` and `do_sub` both derive `DoSubCommand`. -/
theorem distinct_methods_may_meet :
    ¬ ∀ module publications last, Publishes module publications last →
      (publications.map fun publication => publication.generation.method).Nodup →
      ∀ publication ∈ publications, publication.RecordStands module last ∧
        publication.ExtensionStands module last := by
  intro allStand
  have checked : isHistory "doSub" "do_sub" = true ∧
      ((publicationsOf "doSub" "do_sub").map fun publication =>
        publication.generation.method).Nodup ∧
      (publicationsOf "doSub" "do_sub").all (fun publication =>
        ((ofSecond "doSub" "do_sub").2.global? "game_mod" publication.recordName).any
          (·.isClass publication.generation.recordClass)) = false := by decide +kernel
  obtain ⟨isHistory, distinct, isLost⟩ := checked
  have stands := allStand _ _ _ (of_isHistory isHistory) distinct
  rw [List.all_eq_false] at isLost
  obtain ⟨publication, isOne, isLost⟩ := isLost
  rw [(stands publication isOne).1] at isLost
  simp [Value.ofClass, Value.isClass] at isLost

end Publishes

end Deferred
