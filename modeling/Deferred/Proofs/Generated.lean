import Deferred.Proofs.Generating

/-!
# Generations that come to their end

Generating a command for a function leaves everything that other commands rely on as it is, and what
is generated carries what its code says.  A routed command calls a copy of the function, which takes
the same arguments and does the same.
-/

namespace Deferred

open Store Action

/-- A function is another one under a name of its own. -/
structure Store.Copies (before after : Store) (function copied : FunctionObject) : Prop where
  parameters : copied.parameters = function.parameters
  body : copied.body = function.body
  names : copied.names = function.names
  annotations : after.annotationsOf copied = before.annotationsOf function

/-- A function as a value, with its attributes none of the parts that decide about its calls. -/
structure Store.IsRoutine (store : Store) (value : Value) (function : FunctionObject) : Prop where
  isFunction : ∃ place, value = .object ClassId.function place ∧
    store.object? place = some (.function function)
  keepsParts : Code.KeepsParts store value

namespace Code

variable {before after : Store} {bound : Nat} {plan : Plan} {function : FunctionObject}

/-- The conditions under which the code of an accepted plan is what it is meant to be. -/
structure Sound (plan : Plan) : Prop where
  accepted : plan.Accepted
  distinct : (plan.signature.parameters.map Parameter.name).Nodup
  ordered : plan.signature.parameters.Pairwise fun first second =>
    kindRank first.kind ≤ kindRank second.kind
  host : ∃ root, plan.host = Host.reference root
  keepsNames : KeepsNames plan
  /-- No default of a field stays on the class where it would have a say in making records. -/
  quiet : ∀ field ∈ plan.fields, field.name ∈ fieldHooks → staysOnClass field = false

theorem Sound.plainNames (sound : Sound plan) : PlainNames plan where
  apart := sound.accepted.nodup_fields sound.distinct
  notReserved field isField := (sound.accepted.free isField).2.1
  notApply field isField isApply := by
    have free := (sound.accepted.free isField).2.2
    rw [isApply] at free
    exact free (by decide)
  quiet := sound.quiet

theorem Sound.isWritable (sound : Sound plan) : Writable plan.signature.parameters where
  ordered := sound.ordered
  counted parameter isParameter := (sound.accepted.sorts.named parameter isParameter).2.1

theorem Sound.agree (sound : Sound plan) : Agree plan.uses :=
  Plan.agree_uses sound.accepted sound.distinct

/-- A plan is as sound for another routine. -/
theorem Sound.withBody (sound : Sound plan) (body : Value) : Sound { plan with body } where
  accepted :=
    { sorts := sound.accepted.sorts
      attributes := sound.accepted.attributes
      hasEntity := sound.accepted.hasEntity
      mode := sound.accepted.mode
      routing := sound.accepted.routing
      recordName := sound.accepted.recordName
      extensionName := sound.accepted.extensionName }
  distinct := sound.distinct
  ordered := sound.ordered
  host := sound.host
  keepsNames := ⟨sound.keepsNames.normal, sound.keepsNames.inside⟩
  quiet := sound.quiet

/-! ## The routine that the code calls -/

theorem copies_refl (store : Store) (function : FunctionObject) :
    store.Copies store function function := ⟨rfl, rfl, rfl, rfl⟩

theorem objectOf?_annotations (function : FunctionObject) (entries : List (Value × Value))
    (stands : after.objectOf? function.annotations = some (.dict entries)) :
    after.annotationsOf function =
      entries.filterMap fun entry => entry.1.asText?.map fun name => (name, entry.2) := by
  simp only [annotationsOf, stands]

theorem copyRenamed_eq_ok {attributes : Bindings} {name : String} {answer : Value}
    (runs : (copyRenamed function attributes name).run before = (.ok answer, after)) :
    before.Grows after ∧ ∃ place copied, answer = .object ClassId.function place ∧
      after.object? place = some (.function copied) ∧ before.Copies after function copied := by
  simp only [copyRenamed, newDict, bind_eq, run_store_bind, run_allocate_bind, run_allocate] at runs
  cases runs
  refine ⟨(Grows.allocate _ _ _).trans (Grows.allocate _ _ _), _, _, rfl,
    object?_allocate _ _ _, rfl, rfl, rfl, ?_⟩
  have grown : ∀ {store : Store} {entries : List (Value × Value)} {copied : FunctionObject},
      copied.annotations = .object ClassId.dict store.cells.size →
      (((Change.allocate (.function copied) attributes).apply
        ((Change.allocate (.dict entries) []).apply store)).annotationsOf copied) =
        entries.filterMap fun entry => entry.1.asText?.map fun name => (name, entry.2) := by
    intro store entries copied isTable
    refine objectOf?_annotations copied entries ?_
    rw [isTable, objectOf?]
    exact (Grows.allocate _ _ _).object? (object?_allocate store (.dict entries) [])
  rw [grown rfl, annotationsOf]
  cases before.objectOf? function.annotations with
  | none => rfl
  | some object => cases object <;> rfl

/-- A routine that is kept under another name is another routine for the same command. -/
theorem eq_of_withShadow {routed : Plan}
    (runs : (withShadow plan).run before = (.ok routed, after)) :
    ∃ body, routed = { plan with body } := by
  rw [withShadow, bind_eq, run_store_bind] at runs
  split at runs
  · rw [bind_eq, run_bind_eq_ok] at runs
    obtain ⟨shadow, between, copies, ends⟩ := runs
    cases ends
    exact ⟨shadow, rfl⟩
  · cases runs
    exact ⟨plan.body, rfl⟩

theorem withShadow_eq_ok {routed : Plan} (isRoutine : before.IsRoutine plan.body function)
    (runs : (withShadow plan).run before = (.ok routed, after)) :
    before.Grows after ∧ routed = { plan with body := routed.body } ∧
      (plan.isRouted = false → routed.body = plan.body) ∧
      ∃ place copied, routed.body = .object ClassId.function place ∧
        after.object? place = some (.function copied) ∧ before.Copies after function copied := by
  obtain ⟨place, isBody, stands⟩ := isRoutine.isFunction
  have isFunction : before.functionOf? plan.body = some function := by
    simp [functionOf?, objectOf?, isBody, stands]
  simp only [withShadow, bind_eq, run_store_bind, isFunction] at runs
  cases isRouted : plan.isRouted with
  | false =>
    simp only [isRouted, pure_eq_done, run_done] at runs
    cases runs
    exact ⟨.refl _, rfl, fun _ => rfl, place, function, isBody, stands, copies_refl _ _⟩
  | true =>
    simp only [isRouted, run_bind_eq_ok] at runs
    obtain ⟨shadow, between, copies, ends⟩ := runs
    cases ends
    obtain ⟨grows, home, copied, isShadow, stood, isCopy⟩ := copyRenamed_eq_ok copies
    exact ⟨grows, rfl, by simp, home, copied, isShadow, stood, isCopy⟩

/-! ## Running the code -/

/-- The space in which the code of a plan is run holds what the code uses, and nothing else but the
name of its module. -/
theorem setting_of_merge (bound : Nat) (home : Value) {fragments : Plan.Fragments} {names : Bindings}
    (sound : Sound plan) (intact : before.Intact) (makes : plan.fragments = .ok fragments)
    (merges : Fragment.merge [] fragments.toList = .ok names) :
    Setting ⟨Action.machine bound, before.cells.size⟩
        ((Change.allocate (.space (("__name__", home) :: names)) []).apply before) bound plan ∧
      ∀ name, name ≠ "__name__" → (Text.isReserved name = false ∨ name ∈ extensionNames) →
        Entries.get? (((Change.allocate (.space (("__name__", home) :: names)) []).apply before).names
          before.cells.size) name = none := by
  obtain ⟨fromUses, isBound⟩ := Plan.get?_of_merge sound.agree makes merges
  have stands := object?_allocate before (.space (("__name__", home) :: names)) []
  have isNames := names_of_object? stands
  have beside : ∀ bare, Entries.get? (("__name__", home) :: names) (Text.reserved bare) =
      Entries.get? names (Text.reserved bare) := by
    intro bare
    have apart : "__name__" ≠ Text.reserved bare := by
      intro same
      have reserved := Plan.isReserved_reserved bare
      rw [← same] at reserved
      exact absurd reserved (by decide)
    rw [Entries.get?, beq_false_of_ne apart]
    rfl
  refine ⟨⟨rfl, ⟨_, stands⟩, intact.of_grows (.allocate _ _ _), sound.host, ?_⟩, ?_⟩
  · intro use isUse
    rw [isNames, beside, isBound use isUse]
  · intro name notHome loose
    rw [isNames, Entries.get?_eq_none_iff, Entries.keys, List.map_cons, List.mem_cons, not_or]
    refine ⟨notHome, fun isKey => ?_⟩
    obtain ⟨entry, isEntry, rfl⟩ := List.mem_map.mp isKey
    obtain ⟨use, isUse, rfl⟩ := fromUses entry isEntry
    rcases loose with unreserved | isName
    · rw [Plan.isReserved_reserved] at unreserved
      cases unreserved
    · exact Plan.reserved_notMem_ownNames isUse (reserved_of_mem_extensionNames isName).1

theorem runCode_eq_ok {machine : Machine} {text : String} {names : Bindings} {space : Ref}
    (runs : (runCode machine plan text names).run before = (.ok space, after)) :
    space = before.cells.size ∧ ∃ home,
      (runText ⟨machine, before.cells.size⟩ ⟨plan.sourceName, text⟩ plan.code).run
        ((Change.allocate (.space (("__name__", home) :: names)) []).apply before) =
          (.ok (), after) := by
  simp only [runCode, bind_eq, run_store_bind, run_allocate_bind] at runs
  rw [run_bind_of_ok (run_attempt _ _)] at runs
  generalize ((before.functionOf? plan.body).map FunctionObject.home).getD
    (.ofText plan.signature.home) = home at runs
  cases ran : (runText ⟨machine, before.cells.size⟩ ⟨plan.sourceName, text⟩ plan.code).run
      ((Change.allocate (.space (("__name__", home) :: names)) []).apply before) with
  | mk outcome reached =>
    rw [ran] at runs
    cases outcome with
    | ok answer =>
      cases runs
      exact ⟨rfl, home, ran⟩
    | error fault =>
      simp only [run_store_bind] at runs
      split at runs <;> cases runs

/-- What the code of a command leaves: the record, the function that routes the outcome with the
public routine, and the method with its implementations. -/
structure Parts where
  record : ClassId
  own : List RecordField
  route : Value
  routine : Value
  method : Ref
  otherwise : Value
  functions : List (ClassId × Value)
  extension : ClassId

/-- The code of a command was run, in a new space, and left its parts. -/
structure Ran (before after : Store) (bound : Nat) (plan : Plan) (parts : Parts) : Prop where
  setting : Setting ⟨Action.machine bound, before.cells.size⟩ after bound plan
  isAlias : HasAlias after plan before.cells.size parts.record parts.own
  routing : plan.isRouted = true →
    HasRouting after plan before.cells.size parts.route parts.routine
  extension : plan.options.noExtension = false → HasExtension after plan before.cells.size
    parts.method parts.otherwise parts.functions parts.extension
  bare : plan.options.noExtension = true → ∀ name ∈ extensionNames,
    Entries.get? (after.names before.cells.size) name = none
  plain : ∀ name, Text.isReserved name = false →
    name ∉ ["__name__", plan.options.recordName, plan.options.extensionName] →
    Entries.get? (after.names before.cells.size) name = none
  named : (∀ field ∈ plan.fields, field.name ≠ "__name__") →
    after.className parts.record = plan.options.recordName
  builds : before.Builds before.cells.size (textNames plan) [] after

theorem Ran.intact {parts : Parts} (ran : Ran before after bound plan parts) : after.Intact :=
  ran.setting.intact

/-- The record is a generated class of fields. -/
theorem Ran.generated {parts : Parts} (ran : Ran before after bound plan parts) :
    ∃ declared, Entries.get? after.generated parts.record = some declared ∧
      declared.fields.isSome := by
  obtain ⟨declared, -, isDeclared, -, hasFields, -⟩ := ran.isAlias.record.record.declared
  exact ⟨declared, isDeclared, by rw [hasFields]; rfl⟩

/-- Code that runs to its end leaves its parts. -/
theorem ran_of_runCode {fragments : Plan.Fragments} {names : Bindings} {text : String} {space : Ref}
    (sound : Sound plan) (intact : before.Intact) (makes : plan.fragments = .ok fragments)
    (merges : Fragment.merge [] fragments.toList = .ok names)
    (runs : (runCode (Action.machine bound) plan text names).run before = (.ok space, after)) :
    space = before.cells.size ∧ ∃ parts, Ran before after bound plan parts := by
  obtain ⟨rfl, home, runsText⟩ := runCode_eq_ok runs
  obtain ⟨setting, unbound⟩ := setting_of_merge bound home sound intact makes merges
  obtain ⟨id, own, route, routine, method, otherwise, functions, extension, isAlias, isNamed,
    hasRouting, hasExtension, settingText, leaves, builds⟩ := run_text setting sound.plainNames
      sound.keepsNames ⟨sound.accepted.recordName, sound.accepted.extensionName⟩
      sound.isWritable runsText
  refine ⟨rfl, ⟨id, own, route, routine, method, otherwise, functions, extension⟩, settingText,
    isAlias, hasRouting, hasExtension, ?_, ?_, isNamed, ?_⟩
  · intro isLeft name isName
    have notHome : name ≠ "__name__" := by
      rintro rfl
      exact absurd isName (by decide)
    rw [leaves isLeft name isName, unbound name notHome (.inr isName)]
  · intro name unreserved other
    simp only [List.mem_cons, List.not_mem_nil, or_false, not_or] at other
    have unwritten : name ∉ textNames plan := by
      rw [textNames, List.mem_cons, List.mem_cons, not_or, not_or]
      refine ⟨other.2.1, other.2.2, fun isOwn => ?_⟩
      rw [Plan.isReserved_of_mem_ownNames isOwn] at unreserved
      cases unreserved
    rw [builds.get?_names setting.isSpace unwritten, unbound name other.1 (.inl unreserved)]
  · have grown := Grows.allocate before (.space (("__name__", home) :: names)) []
    simpa using (Builds.closed_of_grows before.cells.size grown).trans builds

/-! ## The generation -/

/-- The method of a generation carries the mark of methods that belong to an extension. -/
def HasMark (store : Store) (generation : Generation) : Prop :=
  ∃ place text, generation.extensionMethod = some (.object ClassId.function place) ∧
    store.ownAttribute? (.object ClassId.function place) extensionMark = some (.ofText text)

/-- The classes of a generation go by the names that its plan chose, and the modules are what they
were before. -/
structure Named (before after : Store) (plan : Plan) (generation : Generation) : Prop where
  record : (∀ field ∈ plan.fields, field.name ≠ "__name__") →
    after.className generation.recordClass = plan.options.recordName
  extension : generation.extensionClass.map after.className =
    if plan.options.noExtension then none else some plan.options.extensionName
  modules : after.modules = before.modules

/-- What is known of a generation: the plan it was made under, with the routine that its code calls,
and what it carries. -/
structure Made (before after : Store) (plan : Plan) (function : FunctionObject)
    (generation : Generation) (routed : Plan) (space : Ref) (own : List RecordField) : Prop where
  carries : Carries after routed generation space own
  sound : Sound routed
  isPlan : routed = { plan with body := routed.body }
  unrouted : plan.isRouted = false → routed.body = plan.body ∧ generation.routine = plan.body
  marked : plan.options.noExtension = false → HasMark after generation
  calls : ∃ place copied, routed.body = .object ClassId.function place ∧
    after.object? place = some (.function copied) ∧ copied.parameters = function.parameters ∧
    copied.body = function.body
  fields : generation.fields = plan.fields
  named : Named before after plan generation
  follows : before.Follows after

section Assembling

variable {texted marked collected : Store} {parts : Parts} {extension : Action.Extension}

/-- What was collected of the extension is what the code left of it, and its method has its mark. -/
structure Collected (store : Store) (plan : Plan) (parts : Parts) (extension : Action.Extension) :
    Prop where
  made : plan.options.noExtension = false →
    extension.method = some (.object ClassId.function parts.method) ∧
      extension.implementations = parts.functions ∧ extension.type = some (.cls parts.extension)
  marked : plan.options.noExtension = false → ∃ text,
    store.ownAttribute? (.object ClassId.function parts.method) extensionMark = some (.ofText text)
  bare : plan.options.noExtension = true →
    extension.method = none ∧ extension.implementations = [] ∧ extension.type = none

/-- Once the record has its mark, what the code left of the extension is collected. -/
theorem Ran.extension_collected (ran : Ran before texted bound plan parts)
    (marks : (setAttribute (.cls parts.record) generatedMark (.bool true)).run texted =
      (.ok (), marked))
    (collects : (collectExtension plan before.cells.size).run marked = (.ok extension, collected)) :
    Collected collected plan parts extension ∧
      texted.Builds before.cells.size [] [] collected := by
  obtain ⟨recordClass, isDeclared, isFielded⟩ := ran.generated
  obtain ⟨rfl, ofMark⟩ := setAttribute_mark before.cells.size isDeclared marks
  cases isLeft : plan.options.noExtension with
  | true =>
    obtain ⟨noMethod, noneImplemented, noType, rfl⟩ :=
      collectExtension_bare (by exact ran.bare isLeft) collects
    exact ⟨⟨by simp [isLeft], by simp [isLeft], fun _ => ⟨noMethod, noneImplemented, noType⟩⟩,
      ofMark⟩
  | false =>
    obtain ⟨isMethod, implemented, isType, ofCollect, isMarked⟩ := collectExtension_eq_ok
      ((ran.extension isLeft).mark isDeclared isFielded _) collects
    exact ⟨⟨fun _ => ⟨isMethod, implemented, isType⟩, fun _ => isMarked, by simp [isLeft]⟩,
      by simpa using ofMark.trans ofCollect⟩

/-- The class of an extension goes by the name that was chosen for it. -/
theorem HasExtension.className_of_builds {space place : Ref} {otherwise : Value}
    {functions : List (ClassId × Value)} {id : ClassId}
    (has : HasExtension texted plan space place otherwise functions id)
    (rest : texted.Builds space [] [] after) :
    after.className id = plan.options.extensionName := by
  obtain ⟨declared, isDeclared, -⟩ := has.isExtension.declared
  rw [rest.named _ _ isDeclared, has.isExtension.className_eq rfl, has.named]

/-- The method that the code left chooses among the implementations. -/
theorem Ran.dispatches (ran : Ran before texted bound plan parts)
    (isLeft : plan.options.noExtension = false)
    (rest : texted.Builds before.cells.size [] [] after) :
    ∃ chooser, after.object? parts.method = some (.function chooser) ∧
      chooser.body = .dispatch parts.functions parts.otherwise ∧
      List.Forall₂ (Implements after plan before.cells.size) plan.implementations
        parts.functions := by
  have has := ran.extension isLeft
  obtain ⟨⟨chooser, isChooser, chooses⟩, -⟩ := has.method.dispatches
  obtain ⟨changed, stood, -, does⟩ := rest.functions parts.method chooser (by simp) isChooser
  exact ⟨changed, stood, does.trans chooses,
    implements_of_builds ran.setting.isSpace (by simp) rest has.implements⟩

/-- The public routine is the one that the code left, or one that was there before.  It is not the
method of the extension. -/
theorem Ran.routine_ne_method {place : Ref} {routine : Value}
    (ran : Ran before texted bound plan parts) (isLeft : plan.options.noExtension = false)
    (isOld : place < before.cells.size)
    (isRouted : plan.isRouted = true → routine = parts.routine)
    (isUnrouted : plan.isRouted = false → routine = .object ClassId.function place) :
    routine ≠ .object ClassId.function parts.method := by
  have ofMethod := (ran.extension isLeft).method
  cases routes : plan.isRouted with
  | true =>
    rw [isRouted routes]
    exact ne_dispatches_of_runsCode (ran.routing routes).answers ofMethod.dispatches
  | false =>
    rw [isUnrouted routes]
    rintro same
    obtain rfl := (Value.object.inj same).2
    exact Nat.lt_asymm isOld ofMethod.isNew

/-- What the code of a command left is what the generation carries. -/
theorem assemble_eq_ok {undecorated : Value} {shadow : Option Value} {fragments : Plan.Fragments}
    {generation : Generation} {place : Ref} (sound : Sound plan) (intact : before.Intact)
    (makes : plan.fragments = .ok fragments) (isFunction : undecorated = .object ClassId.function place)
    (stands : before.object? place = some (.function function))
    (keepsParts : KeepsParts before undecorated)
    (runs : (assemble (Action.machine bound) plan undecorated shadow fragments).run before =
      (.ok generation, after)) :
    ∃ space own, Carries after plan generation space own ∧ before.Follows after ∧
      (plan.isRouted = false → generation.routine = undecorated) ∧
      (plan.options.noExtension = false → HasMark after generation) ∧
      generation.fields = plan.fields ∧ Named before after plan generation := by
  subst isFunction
  have within := lt_size_of_object? stands
  simp only [assemble, bind_eq] at runs
  split at runs
  · rename_i names merges
    rw [done_bind] at runs
    split at runs
    · cases runs
    · simp only [done_bind, run_bind_eq_ok, run_store_bind] at runs
      obtain ⟨space, texted, ofCode, record, marking, isRecord, ⟨⟩, marked, marks, extension,
        collected, collects, routine, last, publishes, ends⟩ := runs
      cases ends
      obtain ⟨rfl, parts, ran⟩ := ran_of_runCode sound intact makes merges ofCode
      rw [ran.isAlias.means] at isRecord
      cases isRecord
      obtain ⟨isCollected, sofar⟩ := ran.extension_collected marks collects
      have isSpace := ran.setting.isSpace
      have fromStart := ran.builds.trans sofar
      have isOld : collected.cell? place = before.cell? place := fromStart.old place within within
      have stood : collected.object? place = some (.function function) := by
        rw [object?, isOld]
        exact stands
      have keepsToo : KeepsParts collected (.object ClassId.function place) := by
        intro entry isEntry
        rw [attributesOf, isOld] at isEntry
        exact keepsParts entry isEntry
      obtain ⟨isRouted, isUnrouted, ofPublic, spares⟩ := publicRoutine_eq_ok
        (fun isRouted => (ran.routing isRouted).of_builds isSpace (by simp) sofar)
        within stood keepsToo publishes
      have rest : texted.Builds before.cells.size [] [] after := by
        simpa using sofar.trans ofPublic
      have all : before.Builds before.cells.size (textNames plan) [] after := by
        simpa using fromStart.trans ofPublic
      refine ⟨before.cells.size, parts.own, ?carries, .of_builds all (Nat.le_refl _), isUnrouted,
        ?marked, rfl, ?record, ?extension, all.modules⟩
      case carries =>
        refine ⟨rest.isSpace isSpace, ran.setting.binds.of_builds rest isSpace (by simp), ?plain,
          ran.isAlias.of_builds isSpace (by simp) rest, ?routing, ?method, ?bare⟩
        case plain =>
          intro name unreserved other
          rw [rest.get?_names isSpace (by simp), ran.plain name unreserved other]
        case routing =>
          intro routes
          obtain rfl := isRouted routes
          exact ⟨parts.route, (ran.routing routes).of_builds isSpace (by simp) rest⟩
        case method =>
          intro isLeft
          obtain ⟨isMethod, isCollection, -⟩ := isCollected.made isLeft
          rw [isMethod, isCollection]
          obtain ⟨chooser, stands, chooses, implemented⟩ := ran.dispatches isLeft rest
          exact ⟨parts.method, parts.otherwise, chooser, rfl, stands, chooses, implemented⟩
        case bare =>
          intro isOut
          obtain ⟨noMethod, noneImplemented, -⟩ := isCollected.bare isOut
          exact ⟨noMethod, noneImplemented⟩
      case marked =>
        intro isLeft
        obtain ⟨text, isMarked⟩ := isCollected.marked isLeft
        have apart := ran.routine_ne_method isLeft within isRouted isUnrouted
        exact ⟨parts.method, text, (isCollected.made isLeft).1,
          (spares parts.method apart).ownAttribute?_eq isMarked⟩
      case record =>
        obtain ⟨declared, isDeclared, -⟩ := ran.generated
        exact fun unnamed => (rest.named _ _ isDeclared).trans (ran.named unnamed)
      case extension =>
        cases isLeft : plan.options.noExtension with
        | true =>
          rw [(isCollected.bare isLeft).2.2]
          rfl
        | false =>
          rw [(isCollected.made isLeft).2.2]
          exact congrArg some ((ran.extension isLeft).className_of_builds rest)
  · cases runs

end Assembling

/-- Generating a command for a function, when it comes to its end. -/
theorem generate_eq_ok {generation : Generation} (sound : Sound plan) (intact : before.Intact)
    (isRoutine : before.IsRoutine plan.body function)
    (runs : (generate (Action.machine bound) plan).run before = (.ok generation, after)) :
    ∃ routed space own, Made before after plan function generation routed space own := by
  rw [generate, bind_eq, run_bind_eq_ok] at runs
  obtain ⟨routed, between, shadows, runs⟩ := runs
  obtain ⟨grows, isPlan, unrouted, home, copied, isBody, stood, copies⟩ :=
    withShadow_eq_ok isRoutine shadows
  obtain ⟨place, isFunction, stands⟩ := isRoutine.isFunction
  split at runs
  · rename_i fragments makes
    have keepsParts : KeepsParts between plan.body := by
      intro entry isEntry
      rw [isFunction, grows.attributesOf_eq (lt_size_of_object? stands), ← isFunction] at isEntry
      exact isRoutine.keepsParts entry isEntry
    have soundToo : Sound routed := isPlan ▸ sound.withBody routed.body
    obtain ⟨space, own, carries, follows, isPublic, marked, fields, named⟩ := assemble_eq_ok soundToo
      (intact.of_grows grows) makes isFunction (grows.object? stands) keepsParts runs
    have sameRouting : routed.isRouted = plan.isRouted := by rw [isPlan]; rfl
    have sameMethod : routed.options.noExtension = plan.options.noExtension := by rw [isPlan]
    obtain ⟨changed, stoodToo, takes, does⟩ := follows.keeps.functions home copied stood
    refine ⟨routed, space, own, carries, soundToo, isPlan, ?_, sameMethod ▸ marked,
      ⟨home, changed, isBody, stoodToo, takes.trans copies.parameters, does.trans copies.body⟩, ?_, ?_,
      (Follows.of_grows grows).trans follows⟩
    · exact fun isUnrouted => ⟨unrouted isUnrouted, isPublic (sameRouting.trans isUnrouted)⟩
    · rw [fields, isPlan]
      rfl
    · have sameOptions : routed.options = plan.options := by rw [isPlan]
      have sameFields : routed.fields = plan.fields := by
        rw [isPlan]
        rfl
      refine ⟨fun unnamed => ?_, ?_, named.modules.trans grows.modules_eq⟩
      · rw [named.record (sameFields ▸ unnamed), sameOptions]
      · rw [named.extension, sameOptions]
  · cases runs

/-! ## Names that were accepted -/

/-- A command is only generated when no digit opens the name of its record. -/
theorem head?_recordName_of_generate {machine : Machine} {generation : Generation}
    (runs : (generate machine plan).run before = (.ok generation, after)) :
    plan.options.recordName.toList.head?.any Char.isDigit = false := by
  rw [generate, bind_eq, run_bind_eq_ok] at runs
  obtain ⟨routed, between, shadows, runs⟩ := runs
  obtain ⟨body, rfl⟩ := eq_of_withShadow shadows
  rw [← Text.Numeral.isSome_fault?, Option.isSome_eq_false_iff, Option.isNone_iff_eq_none]
  split at runs
  · simp only [assemble, bind_eq] at runs
    split at runs
    · rw [done_bind] at runs
      split at runs
      · cases runs
      · rename_i compiles
        rw [Plan.compileError?] at compiles
        cases isFault : Text.Numeral.fault? plan.options.recordName.toList with
        | none => rfl
        | some words => simp [isFault] at compiles
    · cases runs
  · cases runs

/-- The class statements of a command that was generated declare names that can be declared.
Derived names may be none, but then generating fails. -/
theorem isFreeName_of_generate {machine : Machine} {generation : Generation} {raw : Options.Raw}
    {routine : String} (resolved : Options.resolve raw routine plan.forEntity = .ok plan.options)
    (runs : (generate machine plan).run before = (.ok generation, after)) :
    Options.isFreeName plan.options.recordName = true ∧
      Options.isFreeName plan.options.extensionName = true := by
  exact ⟨Options.isFreeName_of_head? resolved (head?_recordName_of_generate runs),
    (Options.isFreeName_of_resolve resolved).1⟩

end Code

end Deferred
