import Deferred.Proofs.Artifacts
import Deferred.Proofs.Checking
import Deferred.Proofs.Overwriting

/-!
# What a decoration puts on the host types

A decoration that fails leaves the host types as they were.  One that succeeds puts the generated
method on the type that queues commands and on the one that applies them at once, on the latter only
if it is not left out, and on none of them if no extension is made; nothing else that the host types
have changes.
-/

namespace Deferred

open Store Action

/-! ## Host types -/

/-- The types of a host that methods are put on: for each flavour of command, the type that queues
commands and the type that applies them at once. -/
structure HostTypes (host : Host) where
  queued : Bool → ClassId
  direct : Bool → ClassId
  isQueued : ∀ forEntity, host.queuedTarget forEntity = .cls (queued forEntity)
  isDirect : ∀ forEntity, host.directTarget forEntity = .cls (direct forEntity)
  apart : [queued false, direct false, queued true, direct true].Nodup
  /-- They take attributes, and are no enumerations. -/
  plain : ∀ id ∈ [queued false, direct false, queued true, direct true],
    id.home ≠ "builtins" ∧ id ∉ enumerations

namespace HostTypes

variable {host : Host} {before between after : Store}

/-- All of them. -/
def all (types : HostTypes host) : List ClassId :=
  [types.queued false, types.direct false, types.queued true, types.direct true]

/-- Those that a command gets its method on, which may leave out the extension or the direct type. -/
def served (types : HostTypes host) (noExtension noDirect forEntity : Bool) : List ClassId :=
  if noExtension then []
  else types.queued forEntity :: if noDirect then [] else [types.direct forEntity]

/-- The types of the reference host. -/
def reference (root : String) : HostTypes (Host.reference root) where
  queued := Code.queuedType
  direct := Code.directType
  isQueued forEntity := by cases forEntity <;> rfl
  isDirect forEntity := by cases forEntity <;> rfl
  apart := by decide
  plain := by decide

theorem queued_mem_all (types : HostTypes host) (forEntity : Bool) :
    types.queued forEntity ∈ types.all := by
  cases forEntity <;> simp [all]

theorem direct_mem_all (types : HostTypes host) (forEntity : Bool) :
    types.direct forEntity ∈ types.all := by
  cases forEntity <;> simp [all]

section Served

variable (types : HostTypes host) (noExtension noDirect forEntity flavour : Bool)

theorem served_subset_all : types.served noExtension noDirect forEntity ⊆ types.all := by
  cases noExtension <;> cases noDirect <;> cases forEntity <;> simp [served, all]

/-- The queued type is served by the extensions of its own flavour. -/
theorem queued_mem_served : types.queued flavour ∈ types.served noExtension noDirect forEntity ↔
    noExtension = false ∧ forEntity = flavour := by
  have apart := types.apart
  simp only [List.nodup_cons, List.mem_cons, List.not_mem_nil, or_false, not_or] at apart
  cases noExtension <;> cases noDirect <;> cases forEntity <;> cases flavour <;>
    simp_all [served, eq_comm]

/-- The direct type is served by those of them that do not leave it out. -/
theorem direct_mem_served : types.direct flavour ∈ types.served noExtension noDirect forEntity ↔
    noExtension = false ∧ noDirect = false ∧ forEntity = flavour := by
  have apart := types.apart
  simp only [List.nodup_cons, List.mem_cons, List.not_mem_nil, or_false, not_or] at apart
  cases noExtension <;> cases noDirect <;> cases forEntity <;> cases flavour <;>
    simp_all [served, eq_comm]

end Served

/-- What the host types have is the same in two stores. -/
def Rest (types : HostTypes host) (before after : Store) : Prop :=
  ∀ id ∈ types.all, ∀ name, after.classAttribute? id name = before.classAttribute? id name

/-- Between two stores a generation put its method on some of the host types, and nothing else. -/
def Take (types : HostTypes host) (generation : Generation) (ids : List ClassId)
    (before after : Store) : Prop :=
  ∀ id ∈ types.all, ∀ name, after.classAttribute? id name =
    if name = generation.method ∧ id ∈ ids then generation.extensionMethod
    else before.classAttribute? id name

theorem Rest.refl (types : HostTypes host) (store : Store) : types.Rest store store :=
  fun _ _ _ => rfl

theorem Rest.trans {types : HostTypes host} (first : types.Rest before between)
    (second : types.Rest between after) : types.Rest before after := by
  intro id isType name
  rw [second id isType name, first id isType name]

theorem Rest.of_describes {types : HostTypes host} (describes : before.Describes after) :
    types.Rest before after :=
  fun id isType name => describes.classes id (types.plain id isType).2 name

theorem Rest.take {types : HostTypes host} {generation : Generation} {ids : List ClassId}
    (first : types.Rest before between) (second : types.Take generation ids between after) :
    types.Take generation ids before after := by
  intro id isType name
  rw [second id isType name, first id isType name]

theorem Take.rest {types : HostTypes host} {generation : Generation} {ids : List ClassId}
    (first : types.Take generation ids before between) (second : types.Rest between after) :
    types.Take generation ids before after := by
  intro id isType name
  rw [second id isType name, first id isType name]

end HostTypes

/-! ## What is generated -/

namespace Code

variable {host : Host} {plan : Plan} {generation : Generation} {before between after : Store}
  {function : FunctionObject} {bound : Nat}

/-- A generation does what its plan says: the method is implemented for the types that it is meant
for and shows itself, and the public routine is a function. -/
structure Faithful (types : HostTypes host) (plan : Plan) (generation : Generation)
    (store : Store) : Prop where
  serves : generation.implementations.map Prod.fst =
    types.served plan.options.noExtension plan.options.noDirect plan.forEntity
  made : plan.options.noExtension = false → generation.extensionMethod.isSome
  shows : store.Shows (generation.extensionMethod.getD .absent)
  routine : ∃ place function, generation.routine = .object ClassId.function place ∧
    store.object? place = some (.function function)

/-- A generation that is implemented for a type has a method. -/
theorem Faithful.made_of_mem {types : HostTypes host} {store : Store} {id : ClassId}
    (faithful : Faithful types plan generation store)
    (isServed : id ∈ generation.implementations.map Prod.fst) :
    generation.extensionMethod.isSome := by
  rw [faithful.serves, HostTypes.served] at isServed
  refine faithful.made (Bool.eq_false_iff.mpr fun isLeft => ?_)
  rw [if_pos isLeft] at isServed
  cases isServed

/-- An attribute of a function itself is found where functions have none of that name. -/
theorem attribute?_function (intact : before.Intact) {place : Ref} {name : String} {value : Value}
    (unknown : ({} : Store).find ClassId.function name = none)
    (isOwn : before.ownAttribute? (.object ClassId.function place) name = some value) :
    before.attribute? (.object ClassId.function place) name = some value := by
  simp only [Store.attribute?, instanceAttribute?]
  split
  · rename_i isFound
    obtain ⟨_, isValue⟩ := intact.eq_value_of_find rfl (by decide) unknown isFound
    cases isValue
  · rename_i isFound
    obtain ⟨_, isValue⟩ := intact.eq_value_of_find rfl (by decide) unknown isFound
    cases isValue
  · rw [isOwn]

/-- A marked method shows itself. -/
theorem shows_of_hasMark (intact : before.Intact) (marked : HasMark before generation) :
    before.Shows (generation.extensionMethod.getD .absent) := by
  obtain ⟨place, text, isMethod, isMarked⟩ := marked
  rw [isMethod]
  refine ⟨⟨rfl, rfl⟩, fun _ => ?_⟩
  rw [Store.answers, Option.getD_some, attribute?_function intact (by decide) isMarked]
  rfl

end Code

namespace HostTypes

variable {host : Host} {before after : Store}

/-- Where the host is the reference host, so are its types. -/
theorem eq_reference (types : HostTypes host) (isReference : ∃ root, host = Host.reference root)
    (forEntity : Bool) : types.queued forEntity = Code.queuedType forEntity ∧
      types.direct forEntity = Code.directType forEntity := by
  obtain ⟨root, rfl⟩ := isReference
  have queued := types.isQueued forEntity
  have direct := types.isDirect forEntity
  rw [(reference root).isQueued] at queued
  rw [(reference root).isDirect] at direct
  exact ⟨(Value.cls.inj queued).symm, (Value.cls.inj direct).symm⟩

/-- Generated code leaves the types of the reference host alone. -/
theorem Rest.of_follows {types : HostTypes host} (isReference : ∃ root, host = Host.reference root)
    (intact : before.Intact) (follows : before.Follows after) : types.Rest before after := by
  intro id isType name
  have isDeclared : ∃ home owner, id = .declared home owner := by
    rw [all, (types.eq_reference isReference false).1, (types.eq_reference isReference false).2,
      (types.eq_reference isReference true).1, (types.eq_reference isReference true).2] at isType
    simp only [List.mem_cons, List.not_mem_nil, or_false] at isType
    rcases isType with rfl | rfl | rfl | rfl <;> exact ⟨_, _, rfl⟩
  obtain ⟨home, owner, rfl⟩ := isDeclared
  exact follows.keeps.hosts intact home owner name

end HostTypes

namespace Code

variable {host : Host} {types : HostTypes host} {plan : Plan} {generation : Generation}
  {before after : Store} {function : FunctionObject} {bound : Nat}

/-- The code of a sound plan does what the plan says, and leaves the host types alone. -/
theorem faithful_of_sound (isHost : plan.host = host) (sound : Sound plan) (intact : before.Intact)
    (isRoutine : before.IsRoutine plan.body function)
    (runs : (generate (Action.machine bound) plan).run before = (.ok generation, after)) :
    Faithful types plan generation after ∧ types.Rest before after := by
  subst isHost
  obtain ⟨routed, space, own, made⟩ := generate_eq_ok sound intact isRoutine runs
  have intactAfter := made.follows.keeps.intact intact
  have samePlan : routed.options = plan.options ∧ routed.implementations = plan.implementations ∧
      receiver routed = receiver plan := by
    rw [made.isPlan]
    exact ⟨rfl, rfl, rfl⟩
  obtain ⟨sameOptions, sameImplementations, sameReceiver⟩ := samePlan
  refine ⟨?_, .of_follows sound.host intact made.follows⟩
  have routine : ∃ place function, generation.routine = .object ClassId.function place ∧
      after.object? place = some (.function function) := by
    cases isRouted : plan.isRouted with
    | true =>
      have routes : routed.isRouted = true := by
        rw [made.isPlan]
        exact isRouted
      obtain ⟨route, hasRouting⟩ := made.carries.routing routes
      obtain ⟨place, content, isFunction, stands, -⟩ := hasRouting.answers
      exact ⟨place, content, isFunction, stands⟩
    | false =>
      obtain ⟨place, isFunction, stands⟩ := isRoutine.isFunction
      obtain ⟨changed, stood, -⟩ := made.follows.keeps.functions place function stands
      exact ⟨place, changed, ((made.unrouted isRouted).2).trans isFunction, stood⟩
  cases isLeft : plan.options.noExtension with
  | true =>
    obtain ⟨noMethod, noneServed⟩ := made.carries.bare (by rw [sameOptions, isLeft])
    refine ⟨?_, by simp [isLeft], ?_, routine⟩
    · rw [noneServed, isLeft]
      rfl
    · rw [noMethod]
      exact ⟨⟨rfl, rfl⟩, fun present => by cases present⟩
  | false =>
    obtain ⟨place, otherwise, chooser, isMethod, -, -, implemented⟩ :=
      made.carries.method (by rw [sameOptions, isLeft])
    refine ⟨?_, fun _ => by rw [isMethod]; rfl, shows_of_hasMark intactAfter (made.marked isLeft),
      routine⟩
    obtain ⟨isQueued, isDirect⟩ := types.eq_reference sound.host plan.forEntity
    have apart : Text.reserved "direct" ≠ Text.reserved "queued" := by decide
    rw [keys_of_implements implemented, sameImplementations, sameReceiver, Plan.implementations,
      HostTypes.served, isQueued, isDirect, isLeft]
    cases plan.options.noDirect <;> simp [receiver, apart]

end Code

/-! ## Decorations -/

/-- A decoration as it is written: what it is put on, with which keywords, and of which flavour; and
how deep calls may be nested while it runs. -/
structure Decoration where
  depth : Nat
  routine : Value
  keywords : Options.Raw
  forEntity : Bool

namespace Options

/-- Is a keyword given that turns something on? -/
def isOn (raw : Raw) (key : String) : Bool :=
  match raw.lookup key with
  | some (.bool value) => value
  | _ => false

theorem flag_eq_ok {raw : Raw} {key : String} {value : Bool} (runs : flag raw key = .ok value) :
    value = isOn raw key := by
  rw [flag] at runs
  rw [isOn]
  split at runs
  · rename_i isNone
    cases runs
    rw [isNone]
  · rename_i given isGiven
    cases runs
    rw [isGiven]
  · cases runs

/-- What is left out is what keywords say. -/
theorem leavesOut_of_resolve {raw : Raw} {routine : String} {forEntity : Bool} {options : Options}
    (runs : resolve raw routine forEntity = .ok options) :
    options.noExtension = isOn raw "no_trait" ∧ options.noDirect = isOn raw "no_world" := by
  simp only [resolve, Bind.bind, Except.bind, pure, Except.pure, throw, throwThe,
    MonadExceptOf.throw] at runs
  cases ofExtension : flag raw "no_trait" with
  | error error =>
    rw [ofExtension] at runs
    cases runs
  | ok noExtension =>
    cases ofDirect : flag raw "no_world" with
    | error error =>
      rw [ofExtension, ofDirect] at runs
      cases runs
    | ok noDirect =>
      simp only [ofExtension, ofDirect] at runs
      repeat' split at runs
      all_goals first
        | cases runs; exact ⟨flag_eq_ok ofExtension, flag_eq_ok ofDirect⟩
        | cases runs

end Options

namespace Action

variable {before after : Store} {plan : Plan} {value : Value} {raw : Options.Raw} {forEntity : Bool}

/-- Making a plan changes nothing. -/
theorem planFor_run (value : Value) (raw : Options.Raw) (forEntity : Bool) (before : Store) :
    ((planFor value raw forEntity).run before).2 = before := by
  simp only [planFor, bind_eq, run_store_bind]
  split <;> rfl

/-- A plan is of the flavour that it was made for, with the options that its keywords resolve to. -/
theorem resolved_of_planFor (runs : (planFor value raw forEntity).run before = (.ok plan, after)) :
    plan.forEntity = forEntity ∧
      ∃ routine, Options.resolve raw routine forEntity = .ok plan.options := by
  obtain ⟨target, isBuilt⟩ := Code.built_of_planFor runs
  obtain ⟨-, -, isFlavour, -, resolves⟩ := Plan.accepted_of_build isBuilt
  exact ⟨isFlavour, _, resolves⟩

/-- A plan leaves out what its keywords say. -/
theorem leavesOut_of_planFor (runs : (planFor value raw forEntity).run before = (.ok plan, after)) :
    plan.forEntity = forEntity ∧ plan.options.noExtension = Options.isOn raw "no_trait" ∧
      plan.options.noDirect = Options.isOn raw "no_world" := by
  obtain ⟨isFlavour, _, resolves⟩ := resolved_of_planFor runs
  exact ⟨isFlavour, Options.leavesOut_of_resolve resolves⟩

end Action

namespace Decoration

variable {host : Host} {types : HostTypes host} {decoration : Decoration} {before after : Store}

/-- The plan that a decoration is made under. -/
def plans (decoration : Decoration) : Action Plan :=
  planFor decoration.routine decoration.keywords decoration.forEntity

/-- What is generated for a plan. -/
def generates (decoration : Decoration) (plan : Plan) : Action Generation :=
  generate (Action.machine decoration.depth) plan

/-- What comes of a decoration. -/
def run (decoration : Decoration) : Action Generation :=
  decorate (Action.machine decoration.depth) decoration.routine decoration.keywords
    decoration.forEntity

/-- Why generated code can be relied on. -/
inductive Reliable (types : HostTypes host) (before : Store) (plan : Plan)
    (generation : Generation) (between : Store) : Prop where
  /-- The plan is sound and the host untouched, so the code does what the plan says. -/
  | proved (function : FunctionObject) (sound : Code.Sound plan) (intact : before.Intact)
      (isRoutine : before.IsRoutine plan.body function)
  /-- The code is seen to do what the plan says, and to leave the host types alone. -/
  | observed (faithful : Code.Faithful types plan generation between)
      (rests : types.Rest before between)

/-- A decoration against one host, in which nothing but the installation puts methods on the host
types and no function answers for what they have. -/
structure Regular (types : HostTypes host) (decoration : Decoration) (before : Store) : Prop where
  /-- A plan is for the host. -/
  isHost : ∀ plan, decoration.plans.run before = (.ok plan, before) → plan.host = host
  /-- Code that fails leaves the host types alone. -/
  fails : ∀ plan fault between, decoration.plans.run before = (.ok plan, before) →
    (decoration.generates plan).run before = (.error fault, between) → types.Rest before between
  reliable : ∀ plan generation between, decoration.plans.run before = (.ok plan, before) →
    (decoration.generates plan).run before = (.ok generation, between) →
      Reliable types before plan generation between
  expected : ∀ plan generation between, decoration.plans.run before = (.ok plan, before) →
    (decoration.generates plan).run before = (.ok generation, between) →
      Expected between generation

theorem Reliable.faithful {plan : Plan} {generation : Generation} {between : Store}
    (isHost : plan.host = host) (reliable : Reliable types before plan generation between)
    (runs : (decoration.generates plan).run before = (.ok generation, between)) :
    Code.Faithful types plan generation between ∧ types.Rest before between := by
  cases reliable with
  | proved function sound intact isRoutine =>
    exact Code.faithful_of_sound isHost sound intact isRoutine runs
  | observed faithful rests => exact ⟨faithful, rests⟩

/-- Nothing runs while a generation is installed: no function answers for the host types, and what
they have under the name of the method are functions. -/
def isCalm (store : Store) (generation : Generation) : Bool :=
  !isSpecial generation.method &&
  (generation.published store).all (fun entry => !isSpecial entry.1) &&
  generation.implementations.all fun entry =>
    (special? store (.cls entry.1) "__getattribute__").isNone &&
    (special? store (.cls entry.1) "__getattr__").isNone &&
    (store.attribute? (.cls entry.1) generation.method).all (·.classId = ClassId.function)

theorem expected_of_isCalm {generation : Generation} (calm : isCalm before generation = true) :
    Expected before generation := by
  simp only [isCalm, Bool.and_eq_true, Bool.not_eq_true', List.all_eq_true,
    Option.isNone_iff_eq_none, Option.all_eq_true, decide_eq_true_eq] at calm
  obtain ⟨⟨method, published⟩, types⟩ := calm
  refine ⟨method, published, fun entry isEntry => ?_⟩
  obtain ⟨⟨every, missing⟩, functions⟩ := types entry isEntry
  refine ⟨⟨every, missing⟩, fun there isThere => ?_⟩
  have isFunction := functions there isThere
  exact ⟨by rw [special?, isFunction]; rfl, by rw [special?, isFunction]; rfl⟩

/-- Is something a function, with its attributes none of the parts that decide about its calls? -/
def isRoutine (store : Store) : Value → Bool
  | .object id place =>
    id = ClassId.function && (store.functionOf? (.object id place)).isSome &&
      (store.attributesOf (.object id place)).all fun entry => !Code.callParts.contains entry.1
  | _ => false

theorem exists_isRoutine {value : Value} (checked : isRoutine before value = true) :
    ∃ function, before.IsRoutine value function := by
  cases value with
  | object id place =>
    simp only [isRoutine, Bool.and_eq_true, decide_eq_true_eq, List.all_eq_true,
      Bool.not_eq_true', List.contains_eq_mem, decide_eq_false_iff_not] at checked
    obtain ⟨⟨rfl, described⟩, keepsParts⟩ := checked
    obtain ⟨function, isFunction⟩ := Option.isSome_iff_exists.mp described
    rw [functionOf?] at isFunction
    split at isFunction
    · rename_i stands
      exact ⟨_, ⟨place, rfl, stands⟩, keepsParts⟩
    · cases isFunction
  | _ => cases checked

/-- Can a decoration against the reference host be told to be regular?  Its plan is sound, and nothing
runs while what it leads to is installed. -/
def isRegular (root : String) (decoration : Decoration) (before : Store) : Bool :=
  isRoutine before decoration.routine &&
  match (decoration.plans.run before).1 with
  | .error _ => true
  | .ok plan =>
    decide (Code.Checked plan) && plan.host.root = root &&
    match (decoration.generates plan).run before with
    | (.error _, _) => false
    | (.ok generation, between) => isCalm between generation

/-- What is put on a routine is then a function, and every plan is sound and leads to something that
is installed while nothing runs. -/
theorem planned_of_isRegular {root : String} (checked : isRegular root decoration before = true) :
    (∃ function, before.IsRoutine decoration.routine function) ∧
      ∀ plan, decoration.plans.run before = (.ok plan, before) →
        Code.Sound plan ∧ plan.body = decoration.routine ∧ plan.host = Host.reference root ∧
          ∃ generation between, (decoration.generates plan).run before = (.ok generation, between) ∧
            isCalm between generation = true := by
  rw [isRegular, Bool.and_eq_true] at checked
  obtain ⟨isFunction, checked⟩ := checked
  refine ⟨exists_isRoutine isFunction, fun plan isPlan => ?_⟩
  rw [isPlan] at checked
  simp only [Bool.and_eq_true, decide_eq_true_eq] at checked
  obtain ⟨⟨checkedPlan, isRoot⟩, comes⟩ := checked
  obtain ⟨accepted, isBody⟩ := Code.planFor_eq_ok isPlan
  refine ⟨.of_checked accepted checkedPlan, isBody,
    isRoot ▸ Host.eq_reference checkedPlan.types, ?_⟩
  split at comes
  · cases comes
  · rename_i generation between generated
    exact ⟨generation, between, generated, comes⟩

theorem regular_of_isRegular {root : String} (intact : before.Intact)
    (checked : isRegular root decoration before = true) :
    Regular (HostTypes.reference root) decoration before := by
  obtain ⟨⟨function, isRoutine⟩, planned⟩ := planned_of_isRegular checked
  refine ⟨fun plan isPlan => (planned plan isPlan).2.2.1, ?_, ?_, ?_⟩
  · intro plan fault between isPlan fails
    obtain ⟨-, -, -, _, _, generated, -⟩ := planned plan isPlan
    rw [generated] at fails
    cases fails
  · intro plan generation between isPlan _
    obtain ⟨sound, isBody, -⟩ := planned plan isPlan
    exact .proved function sound intact (isBody ▸ isRoutine)
  · intro plan generation between isPlan generates
    obtain ⟨-, -, -, _, _, generated, calm⟩ := planned plan isPlan
    rw [generates] at generated
    cases generated
    exact expected_of_isCalm calm

/-- The host types that a decoration is meant for. -/
def serves (types : HostTypes host) (decoration : Decoration) : List ClassId :=
  types.served (Options.isOn decoration.keywords "no_trait")
    (Options.isOn decoration.keywords "no_world") decoration.forEntity

/-- What an installation leaves on the host types: nothing new where it fails, and the method on
those it is meant for where it succeeds. -/
theorem installs {plan : Plan} {generation : Generation} {spans : SourceMap} {machine : Machine}
    {outcome : Except Fault Unit} (faithful : Code.Faithful types plan generation before)
    (expected : Expected before generation)
    (runs : (install machine generation spans).run before = (outcome, after)) :
    after.cells = before.cells ∧ match outcome with
      | .error _ => types.Rest before after
      | .ok () =>
        types.Take generation (generation.implementations.map Prod.fst) before after := by
  obtain ⟨_, _, installs, ends⟩ := run_install machine spans expected faithful.shows
  rw [runs] at installs
  cases installs
  have alike := ends.alike expected
  refine ⟨alike.cells, ?_⟩
  cases ends with
  | refused => exact .refl _ _
  | stopped fault done id rest _ unopposed splits ofLanguage puts =>
    -- No host type belongs to the language.
    have isServed : id ∈ generation.implementations.map Prod.fst := by simp [splits]
    rw [faithful.serves] at isServed
    exact absurd ofLanguage (types.plain id (types.served_subset_all _ _ _ isServed)).1
  | installed between _ unopposed puts rest binds =>
    intro id isType name
    have same : after.classAttribute? id name = between.classAttribute? id name := by
      rw [rest]
      rfl
    rw [same]
    by_cases isMethod : name = generation.method
    · subst isMethod
      rw [puts.own id]
      by_cases isServed : id ∈ generation.implementations.map Prod.fst
      · obtain ⟨method, isThere⟩ := Option.isSome_iff_exists.mp (faithful.made_of_mem isServed)
        rw [if_pos (List.mem_reverse.mpr isServed), if_pos ⟨rfl, isServed⟩, isThere]
        rfl
      · rw [if_neg fun isIn => isServed (List.mem_reverse.mp isIn), if_neg fun both => isServed both.2]
    · rw [if_neg fun both => isMethod both.1]
      exact puts.alike.classes id name (by simpa using isMethod)

/-- What a decoration leaves before it tells of what was generated: the host types have what they had
where it failed, and otherwise they take the method. -/
def Leaves (types : HostTypes host) (decoration : Decoration) (before : Store) :
    Except Fault Generation → Store → Prop
  | .error _, after => types.Rest before after
  | .ok generation, after =>
    types.Take generation (decoration.serves types) before after ∧
      (Options.isOn decoration.keywords "no_trait" = false → generation.extensionMethod.isSome)

/-- The public routine of what was generated is a function. -/
def HasRoutine (store : Store) (generation : Generation) : Prop :=
  ∃ place function, generation.routine = .object ClassId.function place ∧
    store.object? place = some (.function function)

/-- Generating and installing a command under a plan. -/
theorem leaves_under {plan : Plan} (regular : Regular types decoration before)
    (planned : decoration.plans.run before = (.ok plan, before))
    {outcome : Except Fault (Plan × Generation)}
    (runs : ((decoration.generates plan).bind fun generation =>
      (install (Action.machine decoration.depth) generation plan.signature.spans).bind fun _ =>
        done (plan, generation)).run before = (outcome, after)) :
    decoration.Leaves types before (outcome.map Prod.snd) after ∧
      ∀ made, outcome = .ok made → HasRoutine after made.2 := by
  obtain ⟨isFlavour, noExtension, noDirect⟩ := leavesOut_of_planFor planned
  cases generated : (decoration.generates plan).run before with
  | mk outcomeOfCode between =>
    cases outcomeOfCode with
    | error fault =>
      rw [run_bind_of_error generated] at runs
      cases runs
      exact ⟨regular.fails plan fault after planned generated, by simp⟩
    | ok generation =>
      obtain ⟨faithful, rests⟩ := (regular.reliable plan generation between planned
        generated).faithful (regular.isHost plan planned) generated
      have expected := regular.expected plan generation between planned generated
      rw [run_bind_of_ok generated] at runs
      cases installed : (install (Action.machine decoration.depth) generation
          plan.signature.spans).run between with
      | mk outcomeOfInstall last =>
        obtain ⟨sameCells, leaves⟩ := installs faithful expected installed
        cases outcomeOfInstall with
        | error fault =>
          rw [run_bind_of_error installed] at runs
          cases runs
          exact ⟨rests.trans leaves, by simp⟩
        | ok =>
          rw [run_bind_of_ok installed] at runs
          cases runs
          have serves : generation.implementations.map Prod.fst = decoration.serves types := by
            rw [faithful.serves, noExtension, noDirect, isFlavour, Decoration.serves]
          refine ⟨⟨serves ▸ rests.take leaves, fun isOff =>
            faithful.made (noExtension.trans isOff)⟩, ?_⟩
          rintro _ ⟨⟩
          obtain ⟨place, function, isFunction, stands⟩ := faithful.routine
          refine ⟨place, function, isFunction, ?_⟩
          rw [object?, Store.cell?, sameCells]
          exact stands

/-- Generating and installing a command. -/
theorem leaves_before_telling (regular : Regular types decoration before)
    {outcome : Except Fault (Plan × Generation)}
    (runs : (generateAndInstall (Action.machine decoration.depth) decoration.routine
      decoration.keywords decoration.forEntity).run before = (outcome, after)) :
    decoration.Leaves types before (outcome.map Prod.snd) after ∧
      ∀ made, outcome = .ok made → HasRoutine after made.2 := by
  have unchanged : (decoration.plans.run before).2 = before := planFor_run _ _ _ before
  have inTurn : generateAndInstall (Action.machine decoration.depth) decoration.routine
      decoration.keywords decoration.forEntity = decoration.plans.bind fun plan =>
        (decoration.generates plan).bind fun generation =>
          (install (Action.machine decoration.depth) generation plan.signature.spans).bind fun _ =>
            done (plan, generation) := rfl
  rw [inTurn] at runs
  cases planned : decoration.plans.run before with
  | mk outcomeOfPlan same =>
    obtain rfl : same = before := by rw [← unchanged, planned]
    cases outcomeOfPlan with
    | error fault =>
      rw [run_bind_of_error planned] at runs
      cases runs
      exact ⟨.refl _ _, by simp⟩
    | ok plan =>
      rw [run_bind_of_ok planned] at runs
      exact leaves_under regular planned runs

/-- What a decoration does last: it tells of what was generated, and the public routine gets to lead
there. -/
def tell (plan : Plan) (generation : Generation) : Action Generation := do
  let store ← Action.store
  perform (.notice (.generated (store.className generation.recordClass) generation.qualname
    generation.mode (generation.extensionClass.map store.className)))
  setAttribute generation.routine artifactAttribute (← newArtifact plan generation)
  return generation

/-- Telling of what was generated comes to its end, and leaves the host types and all objects
alone. -/
theorem run_tell (types : HostTypes host) (plan : Plan) {generation : Generation}
    (hasRoutine : HasRoutine before generation) :
    ∃ after, (tell plan generation).run before = (.ok generation, after) ∧
      types.Rest before after ∧
      ∀ place object, before.object? place = some object → after.object? place = some object := by
  obtain ⟨place, function, isFunction, stands⟩ := hasRoutine
  generalize isNoticed : (Change.notice (.generated (before.className generation.recordClass)
    generation.qualname generation.mode (generation.extensionClass.map before.className))).apply
      before = noticed
  have standsThere : noticed.object? place = some (.function function) := isNoticed ▸ stands
  have rests : types.Rest before noticed := isNoticed ▸ .refl types before
  obtain ⟨artifact, between, describes, adds⟩ := describing_newArtifact plan generation noticed
  have stood := adds.objects place _ standsThere
  have notFrozen : ClassId.isFrozen ClassId.function = false := rfl
  have sets : (setAttribute (.object ClassId.function place) artifactAttribute artifact).run between =
      (.ok (), (Change.setAttribute place artifactAttribute artifact).apply between) := by
    simp only [setAttribute, bind_eq, run_store_bind, notFrozen, Bool.false_eq_true, if_false, stood]
    rfl
  refine ⟨(Change.setAttribute place artifactAttribute artifact).apply between, ?_,
    (rests.trans (.of_describes adds)).trans fun _ _ _ => rfl, fun other object stood => ?_⟩
  · simp only [tell, bind_eq, run_store_bind, run_perform_bind, isNoticed]
    rw [run_bind_of_ok describes, isFunction, run_bind_of_ok sets]
    rfl
  · have kept :
        ((Change.setAttribute place artifactAttribute artifact).apply between).object? other =
          between.object? other := object?_modifyCell_of_kept fun _ => rfl
    exact kept.trans (adds.objects other object (isNoticed ▸ stood))

/-- What a whole decoration leaves on the host types: what they had where it fails, and where it
succeeds the method of the generation on those that it is meant for. -/
theorem leaves (regular : Regular types decoration before) {outcome : Except Fault Generation}
    (runs : decoration.run.run before = (outcome, after)) :
    decoration.Leaves types before outcome after := by
  rw [Decoration.run, decorate, bind_eq, run_bind_of_ok (run_attempt _ _)] at runs
  cases ran : (generateAndInstall (Action.machine decoration.depth) decoration.routine
      decoration.keywords decoration.forEntity).run before with
  | mk answer between =>
    obtain ⟨left, hasRoutine⟩ := leaves_before_telling regular ran
    rw [ran] at runs
    cases answer with
    | error fault =>
      cases fault with
      | rejected report =>
        cases runs
        exact left
      | _ =>
        cases runs
        exact left
    | ok made =>
      obtain ⟨plan, generation⟩ := made
      obtain ⟨takes, isMade⟩ := left
      obtain ⟨last, tells, rests, -⟩ := run_tell types plan (hasRoutine _ rfl)
      rw [tell] at tells
      rw [tells] at runs
      cases runs
      exact ⟨takes.rest rests, isMade⟩

end Decoration

end Deferred
