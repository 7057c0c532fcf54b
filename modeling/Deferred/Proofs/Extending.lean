import Deferred.Proofs.Assembling

/-!
# The method of a command

The text of an extension makes one method.  Each type of the host that takes the command has an
implementation of its own, and the method knows no others.
-/

namespace Deferred

open Store Action

namespace Code

variable {site : Site} {origin : Origin} {before after store : Store} {bound : Nat} {plan : Plan}
  {place : Ref} {otherwise : Value} {functions : List (ClassId × Value)}

/-! ## Receivers -/

/-- The type of the host that queues a command. -/
def queuedType (forEntity : Bool) : ClassId :=
  if forEntity then ClassId.entityCommands else ClassId.commands

/-- The type of the host that applies a command at once. -/
def directType (forEntity : Bool) : ClassId :=
  if forEntity then ClassId.entityAccess else ClassId.world

/-- The type that an implementation is for. -/
def receiver (plan : Plan) (implementation : Plan.Implementation) : ClassId :=
  if implementation.target = Text.reserved "queued" then queuedType plan.forEntity
  else directType plan.forEntity

theorem receiver_mem_receiverTypes (plan : Plan) (implementation : Plan.Implementation) :
    receiver plan implementation ∈ receiverTypes := by
  rw [receiver, queuedType, directType]
  cases plan.forEntity <;> split <;> decide

theorem nodup_receivers (plan : Plan) : (plan.implementations.map (receiver plan)).Nodup := by
  have apart : queuedType plan.forEntity ≠ directType plan.forEntity := by
    cases plan.forEntity <;> decide
  have ofDirect : Text.reserved "direct" ≠ Text.reserved "queued" := by decide
  rw [Plan.implementations]
  split
  · simp
  · simp [receiver, ofDirect, apart]

theorem name_mem_ownNames {implementation : Plan.Implementation}
    (isOne : implementation ∈ plan.implementations) : implementation.name ∈ Plan.ownNames := by
  rw [Plan.implementations] at isOne
  rcases List.mem_cons.mp isOne with rfl | isOther
  · exact (by decide : queuedName ∈ Plan.ownNames)
  · split at isOther
    · cases isOther
    · rw [List.mem_singleton.mp isOther]
      exact (by decide : directName ∈ Plan.ownNames)

theorem nodup_names (plan : Plan) :
    (methodName :: plan.implementations.map Plan.Implementation.name).Nodup := by
  rw [Plan.implementations]
  split
  · exact (by decide : [methodName, queuedName].Nodup)
  · exact (by decide : [methodName, queuedName, directName].Nodup)

theorem harmless_methodName : Harmless plan [methodName] := by
  intro name isName
  exact .inr (List.mem_singleton.mp isName ▸ by decide)

/-- The name of a target means the type of the host that it stands for. -/
theorem Setting.target (setting : Setting site store bound plan)
    (isMade : plan.options.noExtension = false) {implementation : Plan.Implementation}
    (isOne : implementation ∈ plan.implementations) :
    Comes site [] store (.name implementation.target) (.cls (receiver plan implementation)) := by
  obtain ⟨root, isHost⟩ := setting.host
  rw [Plan.implementations] at isOne
  rcases List.mem_cons.mp isOne with rfl | isOther
  · have isType : plan.host.queuedTarget plan.forEntity = .cls (queuedType plan.forEntity) := by
      rw [isHost, queuedType]
      cases plan.forEntity <;> rfl
    have isUse : ("queued", Value.cls (queuedType plan.forEntity)) ∈ plan.uses := by
      rw [← isType]
      simp [Plan.uses, isMade, Plan.extensionUses]
    simpa [receiver] using setting.means _ _ isUse
  · split at isOther
    · cases isOther
    · rename_i isDirect
      have isType : plan.host.directTarget plan.forEntity = .cls (directType plan.forEntity) := by
        rw [isHost, directType]
        cases plan.forEntity <;> rfl
      have isUse : ("direct", Value.cls (directType plan.forEntity)) ∈ plan.uses := by
        rw [← isType]
        simp [Plan.uses, isMade, Plan.extensionUses, isDirect]
      rw [List.mem_singleton.mp isOther]
      have apart : Text.reserved "direct" ≠ Text.reserved "queued" := by decide
      simpa [receiver, apart] using setting.means _ _ isUse

/-! ## The method -/

/-- The parameters that the method and its implementations take. -/
def methodTakes (plan : Plan) : List CallParameter := fieldParameters plan.fields ["self"]

theorem run_methodParameters (setting : Setting site store bound plan)
    (isMade : plan.options.noExtension = false) :
    (parametersOf site [] false plan.methodParameters).run store =
      (.ok (methodTakes plan), store) := by
  refine run_parametersOf_parameterList (defaultsMean_of_binds setting.binds ?_)
  intro use isUse
  simp [Plan.uses, isMade, Plan.extensionUses, isUse]

/-- The method of a command chooses among some functions. -/
structure HasMethod (store : Store) (plan : Plan) (space place : Ref) (otherwise : Value)
    (functions : List (ClassId × Value)) : Prop where
  means : Entries.get? (store.names space) methodName = some (.object ClassId.function place)
  isNew : space < place
  dispatches : Dispatches store place functions otherwise
  unsupported : store.RunsCode otherwise (methodTakes plan) plan.unsupportedBody space

/-- An implementation is there under its name, for the type of the host that it is for. -/
structure Implements (store : Store) (plan : Plan) (space : Ref)
    (implementation : Plan.Implementation) (entry : ClassId × Value) : Prop where
  isFor : entry.1 = receiver plan implementation
  means : Entries.get? (store.names space) implementation.name = some entry.2
  runs : store.RunsCode entry.2 (methodTakes plan) implementation.body space
  isAfter : IsAfter space entry.2

/-- The implementations are for the types that they were made for. -/
theorem keys_of_implements {space : Ref} {implementations : List Plan.Implementation}
    (implemented : List.Forall₂ (Implements store plan space) implementations functions) :
    functions.map Prod.fst = implementations.map (receiver plan) := by
  induction implemented with
  | nil => rfl
  | cons first _ ih => rw [List.map_cons, List.map_cons, first.isFor, ih]

/-- A function that runs code is not the one that chooses among others. -/
theorem ne_dispatches_of_runsCode {value : Value} {parameters : List CallParameter}
    {body : List Statement} {around : Ref} (runs : store.RunsCode value parameters body around)
    (dispatches : Dispatches store place functions otherwise) :
    value ≠ .object ClassId.function place := by
  obtain ⟨other, function, rfl, stands, -, does⟩ := runs
  rintro same
  obtain rfl := (Value.object.inj same).2
  obtain ⟨⟨chooser, isChooser, chooses⟩, -⟩ := dispatches
  rw [stands] at isChooser
  cases isChooser
  rw [does] at chooses
  cases chooses

/-- A function that runs code stays what it is when the one that chooses among others changes. -/
theorem runsCode_beside {written : List String} (dispatches : Dispatches before place functions otherwise)
    (builds : before.Builds site.space written [place] after) {value : Value}
    {parameters : List CallParameter} {body : List Statement} {around : Ref}
    (runs : before.RunsCode value parameters body around) :
    after.RunsCode value parameters body around := by
  have isOther := ne_dispatches_of_runsCode runs dispatches
  obtain ⟨other, function, rfl, stands, takes, does⟩ := runs
  have apart : other ∉ [place] := by
    rw [List.mem_singleton]
    rintro rfl
    exact isOther rfl
  obtain ⟨changed, stood, takesToo, doesToo⟩ := builds.functions other function apart stands
  exact ⟨other, changed, rfl, stood, takesToo.trans takes, doesToo.trans does⟩

theorem Implements.beside {written : List String} {implementation : Plan.Implementation}
    {entry : ClassId × Value} (implements : Implements before plan site.space implementation entry)
    (dispatches : Dispatches before place functions otherwise) (isSpace : before.IsSpace site.space)
    (unwritten : implementation.name ∉ written)
    (builds : before.Builds site.space written [place] after) :
    Implements after plan site.space implementation entry where
  isFor := implements.isFor
  means := by rw [builds.get?_names isSpace unwritten, implements.means]
  runs := runsCode_beside dispatches builds implements.runs
  isAfter := implements.isAfter

theorem run_methodCode (setting : Setting site before bound plan)
    (isMade : plan.options.noExtension = false)
    (runs : (executeAtTop site origin (.define [.name (Text.reserved "singledispatch")] methodName
      plan.methodParameters plan.unsupportedBody)).run before = (.ok (), after)) :
    ∃ place otherwise, HasMethod after plan site.space place otherwise [] ∧
      before.cells.size ≤ place ∧ before.Builds site.space [methodName] [] after := by
  have isDecorator := setting.means "singledispatch" (.builtin "singledispatch")
    (by simp [Plan.uses, isMade, Plan.extensionUses])
  obtain ⟨place, function, isBound, isNew, dispatches, unsupported⟩ :=
    define_dispatching setting.isSpace setting.onMachine isDecorator
      (run_methodParameters setting isMade) runs
  obtain ⟨bound, stands⟩ := setting.isSpace
  exact ⟨place, function, ⟨isBound.means, Nat.lt_of_lt_of_le (lt_size_of_object? stands) isNew,
    dispatches, unsupported⟩, isNew, isBound.builds⟩

/-! ## Registering the implementations -/

/-- One implementation after the other is registered with the method. -/
theorem run_implementationCode {implementations : List Plan.Implementation}
    (setting : Setting site before bound plan) (isMade : plan.options.noExtension = false)
    (within : ∀ implementation ∈ implementations, implementation ∈ plan.implementations)
    (apart : (Entries.keys functions ++ implementations.map (receiver plan)).Nodup)
    (named : (methodName :: implementations.map Plan.Implementation.name).Nodup)
    (method : HasMethod before plan site.space place otherwise functions)
    (runs : (forEach (implementations.flatMap plan.implementationCode)
      (executeAtTop site origin)).run before = (.ok (), after)) :
    ∃ added, HasMethod after plan site.space place otherwise (functions ++ added) ∧
      List.Forall₂ (Implements after plan site.space) implementations added ∧
      before.Builds site.space (implementations.map Plan.Implementation.name) [place] after := by
  induction implementations generalizing before functions with
  | nil =>
    cases runs
    exact ⟨[], by simpa using method, .nil, .refl _⟩
  | cons implementation rest ih =>
    simp only [List.flatMap_cons, Plan.implementationCode, List.cons_append, List.nil_append,
      forEach_cons_eq_ok] at runs
    obtain ⟨between, first, spaced, blank, others⟩ := runs
    cases blank
    have isOne := within implementation List.mem_cons_self
    have harmless : Harmless plan [implementation.name] := by
      intro name isName
      exact .inr (List.mem_singleton.mp isName ▸ name_mem_ownNames isOne)
    have later : ∀ {reached : Store}, before.Grows reached →
        Setting site reached bound plan := fun grows =>
      setting.of_builds (by simp [Harmless]) (.closed_of_grows _ grows)
    obtain ⟨function, isBound, isAfter, dispatches, runsFunction⟩ := define_implementation
      setting.isSpace method.isNew setting.onMachine (comes_of_get? method.means)
      (fun _ grows => (later grows).target isMade isOne) method.dispatches
      (fun _ grows => run_methodParameters (later grows) isMade) first
    simp only [List.map_cons, List.nodup_cons, List.mem_cons, not_or] at named
    obtain ⟨⟨notMethod, methodApart⟩, nameApart, namedRest⟩ := named
    have unkept : receiver plan implementation ∉ Entries.keys functions := by
      intro isKey
      exact (List.nodup_append.mp apart).2.2 _ isKey _ List.mem_cons_self rfl
    have appended : Entries.putAll functions [(receiver plan implementation, function)] =
        functions ++ [(receiver plan implementation, function)] :=
      Entries.put_of_notMem unkept
    rw [appended] at dispatches
    have methodAfter : HasMethod between plan site.space place otherwise
        (functions ++ [(receiver plan implementation, function)]) := by
      refine ⟨?_, method.isNew, dispatches,
        runsCode_beside method.dispatches isBound.builds method.unsupported⟩
      rw [isBound.builds.get?_names setting.isSpace (by simpa using notMethod), method.means]
    have settingAfter := setting.of_builds harmless isBound.builds
    obtain ⟨added, methodLast, implemented, builds⟩ := ih settingAfter
      (fun other isLater => within other (List.mem_cons_of_mem _ isLater))
      (by simpa [Entries.keys] using apart)
      (List.nodup_cons.mpr ⟨methodApart, namedRest⟩) methodAfter others
    refine ⟨(receiver plan implementation, function) :: added, by simpa using methodLast,
      .cons ?_ implemented,
      (isBound.builds.trans builds).mono (by simp) (by simp)⟩
    refine Implements.beside ⟨rfl, isBound.means, runsFunction, isAfter⟩ dispatches settingAfter.isSpace
      nameApart builds

/-! ## The table of implementations -/

/-- Classes are equal to no other classes. -/
theorem equal_cls {first second : ClassId} (apart : first ≠ second) :
    store.equal (.cls first) (.cls second) = false := by
  have same : Value.same (.cls first) (.cls second) = false := beq_false_of_ne apart
  rw [Store.equal]
  cases store.depthBound with
  | zero => exact same
  | succ bound => exact same

/-- The entries of the table of implementations. -/
def tableOf (functions : List (ClassId × Value)) : List (Value × Value) :=
  functions.map fun (id, function) => (.cls id, function)

theorem run_evaluateEntries (sofar : List (ClassId × Value)) {implementations : List Plan.Implementation}
    {added : List (ClassId × Value)}
    (targets : ∀ implementation ∈ implementations,
      Comes site [] store (.name implementation.target) (.cls (receiver plan implementation)))
    (implemented : List.Forall₂ (Implements store plan site.space) implementations added)
    (apart : (sofar ++ added |>.map Prod.fst).Nodup) :
    (evaluateEntries site [] (tableOf sofar) (implementations.map fun implementation =>
        (.name implementation.target, .name implementation.name))).run store =
      (.ok (tableOf (sofar ++ added)), store) := by
  induction implemented generalizing sofar with
  | nil => simp [evaluateEntries, tableOf]
  | @cons implementation entry rest others implements _ ih =>
    obtain ⟨id, function⟩ := entry
    have isTarget := targets implementation List.mem_cons_self
    rw [← implements.isFor] at isTarget
    have isNew : ∀ known ∈ tableOf sofar, store.equal known.1 (.cls id) = false := by
      intro known isKnown
      obtain ⟨kept, isKept, rfl⟩ := List.mem_map.mp isKnown
      refine equal_cls ?_
      rintro same
      rw [List.map_append] at apart
      exact (List.nodup_append.mp apart).2.2 _ (List.mem_map.mpr ⟨kept, isKept, rfl⟩) id
        List.mem_cons_self same
    have others := @ih (sofar ++ [(id, function)])
      (fun other isLater => targets other (List.mem_cons_of_mem _ isLater)) (by simpa using apart)
    have unfiltered : (tableOf sofar).filter (fun known => !store.equal known.1 (.cls id)) =
        tableOf sofar := by
      rw [List.filter_eq_self]
      intro known isKnown
      rw [isNew known isKnown]
      rfl
    rw [List.map_cons, evaluateEntries, bind_eq, run_bind_of_ok isTarget, bind_eq,
      run_bind_of_ok (comes_of_get? implements.means)]
    simp only [keyed, Value.hashable, if_true, bind_eq, done_bind, run_store_bind, unfiltered]
    simpa [tableOf] using others

/-! ## The parts of the text -/

end Code

namespace Plan

/-- The code of the method and its implementations. -/
def equippingCode (plan : Plan) : List Code.Statement :=
  .define [.name (Text.reserved "singledispatch")] Code.methodName plan.methodParameters
      plan.unsupportedBody ::
    .blank :: plan.implementations.flatMap plan.implementationCode

/-- The code of the table of implementations. -/
def tableCode (plan : Plan) : Code.Statement :=
  .assign Code.implementationsName (.table (plan.implementations.map fun implementation =>
    (.name implementation.target, .name implementation.name)))

/-- The code of the extension as a class. -/
def declarationCode (plan : Plan) : List Code.Statement :=
  [.blank,
    .declare [] plan.options.extensionName [.name (Text.reserved "ABC")]
      (plan.docStatements ++ [.pass]),
    .blank,
    .expression ((Code.Expr.name (Text.reserved "setattr")).apply
      [.name plan.options.extensionName, .text plan.options.methodName, .name Code.methodName])]

/-- The code that registers a type of the host as an implementer. -/
def registrationCode (name : String) (implementation : Implementation) : Code.Statement :=
  .expression ((Code.Expr.name (Text.reserved "ABCMeta")).send "register"
    [.name name, .name implementation.target])

theorem extensionCode_eq (plan : Plan) : plan.extensionCode =
    plan.equippingCode ++ ([plan.tableCode] ++ (plan.declarationCode ++
      (plan.implementations.map (registrationCode plan.options.extensionName) ++
        [.assign Code.extensionAlias (.name plan.options.extensionName)]))) := by
  simp [extensionCode, equippingCode, tableCode, declarationCode, registrationCode]

end Plan

namespace Code

variable {site : Site} {origin : Origin} {before after store : Store} {bound : Nat} {plan : Plan}
  {place : Ref} {otherwise : Value} {functions : List (ClassId × Value)}

/-! ## The whole extension -/

/-- What the text of an extension leaves: the method, its implementations and their table, and the
extension as a class. -/
structure HasExtension (store : Store) (plan : Plan) (space place : Ref) (otherwise : Value)
    (functions : List (ClassId × Value)) (extension : ClassId) : Prop where
  method : HasMethod store plan space place otherwise functions
  implements : List.Forall₂ (Implements store plan space) plan.implementations functions
  table : ∃ home, Entries.get? (store.names space) implementationsName =
      some (.object ClassId.dict home) ∧ store.object? home = some (.dict (tableOf functions))
  means : Entries.get? (store.names space) extensionAlias = some (.cls extension)
  isExtension : IsExtension store extension plan.options.methodName
    (.object ClassId.function place)
  named : extension.name = plan.options.extensionName

/-- The method and its implementations are there, and so is what the rest of the text uses. -/
structure Equipped (site : Site) (store : Store) (bound : Nat) (plan : Plan) (place : Ref)
    (otherwise : Value) (functions : List (ClassId × Value)) : Prop where
  setting : Setting site store bound plan
  method : HasMethod store plan site.space place otherwise functions
  implements : List.Forall₂ (Implements store plan site.space) plan.implementations functions

theorem implements_of_builds {implementations : List Plan.Implementation} {written : List String}
    (isSpace : before.IsSpace site.space)
    (unwritten : ∀ implementation ∈ implementations, implementation.name ∉ written)
    (builds : before.Builds site.space written [] after)
    (implemented : List.Forall₂ (Implements before plan site.space) implementations functions) :
    List.Forall₂ (Implements after plan site.space) implementations functions := by
  induction implemented with
  | nil => exact .nil
  | @cons implementation entry _ _ first _ ih =>
    refine .cons ⟨first.isFor, ?_, builds.runsCode first.runs, first.isAfter⟩ (ih ?_)
    · rw [builds.get?_names isSpace (unwritten implementation List.mem_cons_self), first.means]
    · exact fun other isLater => unwritten other (List.mem_cons_of_mem _ isLater)

/-- The names that the method and its implementations have. -/
def methodNames : List String := [methodName, queuedName, directName]

theorem name_mem_methodNames {implementation : Plan.Implementation}
    (isOne : implementation ∈ plan.implementations) : implementation.name ∈ methodNames := by
  rw [Plan.implementations] at isOne
  rcases List.mem_cons.mp isOne with rfl | isOther
  · simp [methodNames]
  · split at isOther
    · cases isOther
    · simp [methodNames, List.mem_singleton.mp isOther]

/-- What writes none of these names, and changes no function that was there, keeps them. -/
theorem Equipped.of_builds {written : List String}
    (equipped : Equipped site before bound plan place otherwise functions)
    (harmless : Harmless plan written) (unwritten : ∀ name ∈ methodNames, name ∉ written)
    (dispatches : Dispatches after place functions otherwise)
    (builds : before.Builds site.space written [] after) :
    Equipped site after bound plan place otherwise functions where
  setting := equipped.setting.of_builds harmless builds
  method :=
    { means := by
        rw [builds.get?_names equipped.setting.isSpace (unwritten _ (by simp [methodNames])),
          equipped.method.means]
      isNew := equipped.method.isNew
      dispatches
      unsupported := builds.runsCode equipped.method.unsupported }
  implements := implements_of_builds equipped.setting.isSpace
    (fun _ isOne => unwritten _ (name_mem_methodNames isOne)) builds equipped.implements

theorem Equipped.setName (equipped : Equipped site before bound plan place otherwise functions)
    (name : String) (harmless : Harmless plan [name]) (unwritten : name ∉ methodNames)
    (value : Value) :
    Equipped site ((Change.setName site.space name value).apply before) bound plan place otherwise
      functions := by
  refine equipped.of_builds harmless ?_
    (equipped.method.dispatches.setName equipped.setting.isSpace value)
    (Builds.setName _ before name value)
  intro part isPart isName
  exact unwritten (List.mem_singleton.mp isName ▸ isPart)

/-- One type after the other is registered as an implementer of the extension. -/
theorem run_registrations {implementations : List Plan.Implementation} {name : String}
    {extension : ClassId} (equipped : Equipped site before bound plan place otherwise functions)
    (isMade : plan.options.noExtension = false)
    (within : ∀ implementation ∈ implementations, implementation ∈ plan.implementations)
    (means : Entries.get? (before.names site.space) name = some (.cls extension))
    (isExtension : IsExtension before extension plan.options.methodName
      (.object ClassId.function place))
    (runs : (forEach (implementations.map (Plan.registrationCode name))
      (executeAtTop site origin)).run before = (.ok (), after)) :
    Equipped site after bound plan place otherwise functions ∧
      IsExtension after extension plan.options.methodName (.object ClassId.function place) ∧
      before.Builds site.space [] [] after := by
  have ofHost : ∀ entry ∈ functions, entry.1 ∈ receiverTypes := by
    intro entry isEntry
    have isKey : entry.1 ∈ plan.implementations.map (receiver plan) :=
      keys_of_implements equipped.implements ▸ List.mem_map.mpr ⟨entry, isEntry, rfl⟩
    obtain ⟨implementation, -, same⟩ := List.mem_map.mp isKey
    exact same ▸ receiver_mem_receiverTypes plan implementation
  induction implementations generalizing before with
  | nil =>
    cases runs
    exact ⟨equipped, isExtension, .refl _⟩
  | cons implementation rest ih =>
    rw [List.map_cons, forEach_cons_eq_ok] at runs
    obtain ⟨between, first, others⟩ := runs
    have isRegistry := equipped.setting.means "ABCMeta" (.cls ClassId.abstractMeta)
      (by simp [Plan.uses, isMade, Plan.extensionUses, Value.ofClass])
    obtain ⟨isExtensionAfter, dispatches, builds⟩ := register_implementer equipped.setting.onMachine
      equipped.setting.intact isExtension equipped.method.dispatches ofHost
      equipped.method.unsupported isRegistry (comes_of_get? means)
      (receiver_mem_receiverTypes plan implementation)
      (equipped.setting.target isMade (within implementation List.mem_cons_self)) first
    have equippedAfter := equipped.of_builds (by simp [Harmless]) (by simp) dispatches builds
    obtain ⟨last, isExtensionLast, buildsLast⟩ := ih equippedAfter
      (fun other isLater => within other (List.mem_cons_of_mem _ isLater))
      (by rw [builds.get?_names equipped.setting.isSpace (by simp), means]) isExtensionAfter others
    exact ⟨last, isExtensionLast, by simpa using builds.trans buildsLast⟩

/-- The method of a command with its implementations. -/
theorem run_equipping (setting : Setting site before bound plan)
    (isMade : plan.options.noExtension = false)
    (runs : (forEach plan.equippingCode (executeAtTop site origin)).run before = (.ok (), after)) :
    ∃ place otherwise functions, Equipped site after bound plan place otherwise functions ∧
      before.cells.size ≤ place ∧ before.Builds site.space methodNames [] after := by
  simp only [Plan.equippingCode, forEach_cons_eq_ok] at runs
  obtain ⟨between, first, spaced, blank, others⟩ := runs
  cases blank
  obtain ⟨place, otherwise, method, isNew, builds⟩ := run_methodCode setting isMade first
  have settingAfter := setting.of_builds harmless_methodName builds
  obtain ⟨functions, methodAfter, implemented, buildsAfter⟩ := run_implementationCode settingAfter
    isMade (fun _ isOne => isOne) (by simpa [Entries.keys] using nodup_receivers plan)
    (nodup_names plan) method others
  have within : ∀ name ∈ plan.implementations.map Plan.Implementation.name, name ∈ methodNames := by
    intro name isName
    obtain ⟨implementation, isOne, rfl⟩ := List.mem_map.mp isName
    exact name_mem_methodNames isOne
  have harmless : Harmless plan (plan.implementations.map Plan.Implementation.name) := by
    intro name isName
    obtain ⟨implementation, isOne, rfl⟩ := List.mem_map.mp isName
    exact .inr (name_mem_ownNames isOne)
  refine ⟨place, otherwise, functions, ⟨settingAfter.of_builds harmless buildsAfter,
    by simpa using methodAfter, implemented⟩, isNew, ?_⟩
  refine ((builds.trans buildsAfter).close ?_).mono ?_ (by simp)
  · intro other isOther
    rw [List.nil_append, List.mem_singleton] at isOther
    exact isOther ▸ isNew
  · intro name isName
    rcases List.mem_append.mp isName with isMethod | isImplementation
    · exact List.mem_singleton.mp isMethod ▸ List.mem_cons_self
    · exact within name isImplementation

/-- The entries of the table of implementations. -/
theorem run_tableEntries (equipped : Equipped site before bound plan place otherwise functions)
    (isMade : plan.options.noExtension = false) :
    (evaluateEntries site [] [] (plan.implementations.map fun implementation =>
      (.name implementation.target, .name implementation.name))).run before =
        (.ok (tableOf functions), before) := by
  have entries := run_evaluateEntries []
    (fun _ isOne => equipped.setting.target isMade isOne) equipped.implements (by
      rw [List.nil_append, keys_of_implements equipped.implements]
      exact nodup_receivers plan)
  rwa [List.nil_append] at entries

/-- The table of implementations under its name. -/
theorem run_table (equipped : Equipped site before bound plan place otherwise functions)
    (isMade : plan.options.noExtension = false)
    (runs : (executeAtTop site origin plan.tableCode).run before = (.ok (), after)) :
    Equipped site after bound plan place otherwise functions ∧
      before.Builds site.space [implementationsName] [] after ∧
      ∃ home, Entries.get? (after.names site.space) implementationsName =
        some (.object ClassId.dict home) ∧
          after.object? home = some (.dict (tableOf functions)) := by
  have entries := run_tableEntries equipped isMade
  rw [Plan.tableCode, executeAtTop, evaluate, bind_eq, bind_eq, Action.bind_assoc,
    run_bind_of_ok entries, newDict, run_allocate_bind, run_perform] at runs
  cases runs
  have grown := Grows.allocate before (.dict (tableOf functions)) []
  have grownToo := Builds.closed_of_grows site.space grown
  have isSpace := grownToo.isSpace equipped.setting.isSpace
  have equippedToo := equipped.of_builds (by simp [Harmless]) (by simp)
    (equipped.method.dispatches.of_grows grown) grownToo
  have apart : before.cells.size ≠ site.space := by
    obtain ⟨bound, stands⟩ := equipped.setting.isSpace
    exact Nat.ne_of_gt (lt_size_of_object? stands)
  refine ⟨equippedToo.setName _ ?_ (by decide) _, ?_, _, get?_setName isSpace _ _, ?_⟩
  · intro name isName
    exact .inr (List.mem_singleton.mp isName ▸ by decide)
  · exact (grownToo.trans (Builds.setName _ _ implementationsName _)).mono (by simp)
      (by simp)
  · exact (object?_modifyObject_of_ne _ apart).trans
      (object?_allocate before (.dict (tableOf functions)) [])

/-- The extension as a class under its own name. -/
theorem run_extensionClass (equipped : Equipped site before bound plan place otherwise functions)
    (isMade : plan.options.noExtension = false)
    (free : Text.isReserved plan.options.extensionName = false)
    (runs : (executeAtTop site origin (.declare [] plan.options.extensionName
      [.name (Text.reserved "ABC")] (plan.docStatements ++ [.pass]))).run before =
        (.ok (), after)) :
    ∃ extension, Equipped site after bound plan place otherwise functions ∧
      Entries.get? (after.names site.space) plan.options.extensionName = some (.cls extension) ∧
      IsExtension after extension plan.options.methodName (.object ClassId.function place) ∧
      extension.name = plan.options.extensionName ∧
      before.Builds site.space [plan.options.extensionName] [] after := by
  have isBase := equipped.setting.means "ABC" (.cls ClassId.abstract)
    (by simp [Plan.uses, isMade, Plan.extensionUses, Value.ofClass])
  rw [executeAtTop, bind_eq, run_bind_eq_ok] at runs
  obtain ⟨made, between, makes, named⟩ := runs
  obtain ⟨extension, rfl, isNamed, isExtension, kept, builds⟩ := makeClass_extension
    plan.options.methodName (.object ClassId.function place) equipped.setting.intact isBase makes
  cases named
  have harmless : Harmless plan [plan.options.extensionName] := by
    intro name isName
    exact .inl (List.mem_singleton.mp isName ▸ free)
  have unwritten : plan.options.extensionName ∉ methodNames := by
    intro isMethod
    have reserved : Text.isReserved plan.options.extensionName = true := by
      revert isMethod
      generalize plan.options.extensionName = name
      revert name
      decide
    rw [free] at reserved
    cases reserved
  have declared := equipped.of_builds (by simp [Harmless]) (by simp)
    (equipped.method.dispatches.of_cell (kept place)) builds
  refine ⟨extension, declared.setName _ harmless unwritten (.cls extension),
    get?_setName declared.setting.isSpace _ _,
    ⟨isExtension.isMeta, isExtension.declared, isExtension.attributes⟩, isNamed, ?_⟩
  simpa using builds.trans (Builds.setName site.space between plan.options.extensionName
    (.cls extension))

/-- The extension as a class, with the method on it. -/
theorem run_declaration (equipped : Equipped site before bound plan place otherwise functions)
    (isMade : plan.options.noExtension = false)
    (free : Text.isReserved plan.options.extensionName = false)
    (runs : (forEach plan.declarationCode (executeAtTop site origin)).run before =
      (.ok (), after)) :
    ∃ extension, Equipped site after bound plan place otherwise functions ∧
      Entries.get? (after.names site.space) plan.options.extensionName = some (.cls extension) ∧
      IsExtension after extension plan.options.methodName (.object ClassId.function place) ∧
      extension.name = plan.options.extensionName ∧
      before.Builds site.space [plan.options.extensionName] [] after := by
  simp only [Plan.declarationCode, forEach_cons_eq_ok] at runs
  obtain ⟨spaced, blank, declared, declares, spacedToo, blankToo, last, sets, ends⟩ := runs
  cases ends
  cases blank
  cases blankToo
  obtain ⟨extension, named, isNamed, isExtension, goesBy, builds⟩ :=
    run_extensionClass equipped isMade free declares
  have isSetter := named.setting.means "setattr" (.builtin "setattr")
    (by simp [Plan.uses, isMade, Plan.extensionUses])
  obtain ⟨isExtensionLast, cells, buildsLast⟩ := setattr_method named.setting.onMachine
    named.setting.intact rfl isExtension isSetter (comes_of_get? isNamed)
    (comes_of_get? named.method.means) sets
  refine ⟨extension, named.of_builds (by simp [Harmless]) (by simp) ?_ buildsLast, ?_,
    isExtensionLast, goesBy, ?_⟩
  · exact named.method.dispatches.of_cell fun cell isCell => by rwa [Store.cell?, cells]
  · rw [buildsLast.get?_names named.setting.isSpace (by simp), isNamed]
  · simpa using builds.trans buildsLast

/-- The text of an extension leaves the method with its implementations, and the extension. -/
theorem run_extensionCode (setting : Setting site before bound plan)
    (isMade : plan.options.noExtension = false)
    (free : Text.isReserved plan.options.extensionName = false)
    (runs : (forEach plan.extensionCode (executeAtTop site origin)).run before = (.ok (), after)) :
    ∃ place otherwise functions extension,
      HasExtension after plan site.space place otherwise functions extension ∧
      before.cells.size ≤ place ∧ Setting site after bound plan ∧
      before.Builds site.space (methodNames ++ [implementationsName, plan.options.extensionName,
        extensionAlias]) [] after := by
  have apart : ∀ name, Text.reserved name ≠ plan.options.extensionName :=
    Plan.ne_reserved free
  rw [Plan.extensionCode_eq] at runs
  obtain ⟨first, equips, runs⟩ := forEach_append_eq_ok.mp runs
  obtain ⟨second, tables, runs⟩ := forEach_append_eq_ok.mp runs
  obtain ⟨third, declares, runs⟩ := forEach_append_eq_ok.mp runs
  obtain ⟨fourth, registers, assigns⟩ := forEach_append_eq_ok.mp runs
  obtain ⟨place, otherwise, functions, equipped, isNew, builds⟩ :=
    run_equipping setting isMade equips
  obtain ⟨last, table, ends⟩ := forEach_cons_eq_ok.mp tables
  cases ends
  obtain ⟨equippedTable, buildsTable, home, isTable, stands⟩ := run_table equipped isMade table
  obtain ⟨extension, equippedClass, isNamed, isExtension, goesBy, buildsClass⟩ :=
    run_declaration equippedTable isMade free declares
  obtain ⟨equippedLast, isExtensionLast, buildsLast⟩ := run_registrations equippedClass isMade
    (fun _ isOne => isOne) isNamed isExtension registers
  have isNamedLast := isNamed
  rw [← buildsLast.get?_names equippedClass.setting.isSpace (by simp)] at isNamedLast
  obtain ⟨end_, alias_, ends⟩ := forEach_cons_eq_ok.mp assigns
  cases ends
  rw [run_assign (comes_of_get? isNamedLast)] at alias_
  cases alias_
  have equippedEnd := equippedLast.setName extensionAlias (by
    intro name isName
    exact .inr (List.mem_singleton.mp isName ▸ by decide)) (by decide) (.cls extension)
  have buildsAlias := Builds.setName site.space fourth extensionAlias
    (.cls extension)
  have afterTable := (buildsClass.trans buildsLast).trans buildsAlias
  have homeApart : home ≠ site.space := by
    rintro rfl
    obtain ⟨names, isSpace⟩ := equippedTable.setting.isSpace
    rw [isSpace] at stands
    cases stands
  refine ⟨place, otherwise, functions, extension,
    ⟨equippedEnd.method, equippedEnd.implements, ⟨home, ?_, ?_⟩,
      get?_setName equippedLast.setting.isSpace _ _, ⟨isExtensionLast.isMeta,
        isExtensionLast.declared, isExtensionLast.attributes⟩, goesBy⟩, isNew, equippedEnd.setting,
    ?_⟩
  · rw [afterTable.get?_names equippedTable.setting.isSpace, isTable]
    have notExtension := apart "implementations"
    simp only [List.append_nil, List.cons_append, List.nil_append, List.mem_cons,
      List.not_mem_nil, or_false, not_or]
    exact ⟨notExtension, by decide⟩
  · exact afterTable.objects home _ homeApart stands (by simp)
  · exact ((builds.trans buildsTable).trans afterTable).mono (by simp) (by simp)

end Code

end Deferred
