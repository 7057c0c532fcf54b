import Deferred.Proofs.MethodRecord

/-!
# What applying a record runs

A record is applied by calling the routine of its command once.  Where the routine takes the world,
each parameter is given what it stands for: the world, the entity, or what the record holds under
the name of the parameter.  An outcome that is routed is handed on, and a chainable command answers
with the world.
-/

namespace Deferred

open Store Action

namespace Plan

/-- What the parameters of a routine that takes the world stand for. -/
def standsFor (world entity : Value) (held : String → Value) : Parameter × Role → Value
  | (_, .context) => world
  | (_, .entity) => entity
  | (parameter, _) => held parameter.name

/-- The arguments of a routine that takes the world, in the order of its parameters. -/
def directArguments (plan : Plan) (world entity : Value) (held : String → Value) : Arguments :=
  { positional :=
      (plan.classification.roles.filter (!·.1.isKeywordOnly)).map (standsFor world entity held)
    keywords := (plan.classification.roles.filter (·.1.isKeywordOnly)).map fun entry =>
      (entry.1.name, standsFor world entity held entry) }

/-- Hand an outcome on to the function that sends it to a handler, if it is routed. -/
def handOn (plan : Plan) (machine : Machine) (route world outcome : Value) : Action Value :=
  if plan.isRouted then machine.call route (.ofList [world, outcome]) else done outcome

/-- What applying a record does where the routine takes the world: the routine is called once with
what its parameters stand for, the outcome is handed on, and a chainable command answers with the
world. -/
def applied (plan : Plan) (machine : Machine) (body route world entity : Value)
    (held : String → Value) : Action Value :=
  (machine.call body (plan.directArguments world entity held)).bind fun outcome =>
    (plan.handOn machine route world outcome).bind fun _ =>
      done (if plan.signature.chainable then world else .absent)

end Plan

namespace Code

variable {site : Site} {locals : Bindings} {store before after later : Store} {plan : Plan}
  {function : FunctionObject} {generation : Generation} {bound : Nat}
  {world entity body route : Value} {held : String → Value}

/-! ## Calls -/

/-- Calling a function that runs code binds its parameters and runs the code one level deeper. -/
theorem run_call_bound {value : Value} {parameters : List CallParameter} {arguments : Arguments}
    {owner : String} {statements : List Statement} {space : Ref} {reached : Store} (depth : Nat)
    (runs : store.RunsCode value parameters statements space)
    (binds : (arguments.bindTo owner parameters).run store = (.ok locals, reached)) :
    ((Action.machine (depth + 1)).call value arguments).run store =
      (runBody ⟨Action.machine depth, space⟩ locals statements).run reached := by
  obtain ⟨place, function, rfl, stands, takes, does⟩ := runs
  have called : (Action.machine (depth + 1)).call (.object ClassId.function place) arguments =
      callStep (Action.machine depth) (.object ClassId.function place) arguments := rfl
  simp only [called, callStep, bind_eq, run_store_bind, stands, callFunction, does, takes]
  rw [run_bind_of_ok (Arguments.run_bindTo_of_ok function.qualname binds)]

theorem run_call_code {value : Value} {names : List String} {given : List Value}
    {statements : List Statement} {space : Ref} (depth : Nat)
    (runs : store.RunsCode value (names.map .plain) statements space)
    (asMany : names.length = given.length) :
    ((Action.machine (depth + 1)).call value (.ofList given)).run store =
      (runBody ⟨Action.machine depth, space⟩ (names.zip given) statements).run store :=
  run_call_bound depth runs (Arguments.run_bindTo_plain "" asMany)

/-- What one value answers a call with, another answers it with too. -/
def AnswersAlike (store : Store) (first second : Value) : Prop :=
  ∀ {depth : Nat} {arguments : Arguments} {value : Value} {after : Store},
    ((Action.machine (depth + 1)).call first arguments).run store = (.ok value, after) →
    ((Action.machine (depth + 1)).call second arguments).run store = (.ok value, after)

/-- Functions that take the same and do the same answer alike; only what they say of arguments that
do not fit may differ. -/
theorem answersAlike_of_same {home other : Ref} {alike : FunctionObject}
    (stands : store.object? home = some (.function function))
    (standsToo : store.object? other = some (.function alike))
    (takes : alike.parameters = function.parameters) (does : alike.body = function.body) :
    AnswersAlike store (.object ClassId.function home) (.object ClassId.function other) := by
  intro depth arguments value after calls
  have called : ∀ place, (Action.machine (depth + 1)).call (.object ClassId.function place)
      arguments = callStep (Action.machine depth) (.object ClassId.function place) arguments :=
    fun _ => rfl
  simp only [called, callStep, bind_eq, run_store_bind, stands, standsToo, callFunction, takes,
    does] at calls ⊢
  cases body : function.body with
  | dispatch implementations otherwise => simpa only [body] using calls
  | _ =>
    simp only [body, run_bind_eq_ok] at calls ⊢
    obtain ⟨locals, between, binds, rest⟩ := calls
    exact ⟨locals, between, Arguments.run_bindTo_of_ok _ binds, rest⟩

/-- Calling the routine with the world gives each parameter what it stands for. -/
theorem run_evaluate_exclusiveCall {reach : Reach}
    (isBody : Means site locals store Plan.bodyName body)
    (comes : ∀ entry ∈ plan.classification.roles, Comes site locals store
      (Plan.argument reach entry) (Plan.standsFor world entity held entry)) :
    (evaluate site locals (plan.exclusiveCall reach)).run store =
      (site.machine.call body (plan.directArguments world entity held)).run store := by
  have positional : (evaluateAll site locals
      ((plan.classification.roles.filter (!·.1.isKeywordOnly)).map (Plan.argument reach))).run
        store = (.ok ((plan.classification.roles.filter (!·.1.isKeywordOnly)).map
          (Plan.standsFor world entity held)), store) := by
    apply run_evaluateAll
    rw [List.forall₂_map_left_iff, List.forall₂_map_right_iff, List.forall₂_same]
    exact fun entry isIn => comes entry (List.mem_filter.mp isIn).1
  have keywords : (evaluateKeywords site locals
      ((plan.classification.roles.filter (·.1.isKeywordOnly)).map fun entry =>
        (entry.1.name, Plan.argument reach entry))).run store =
      (.ok ((plan.classification.roles.filter (·.1.isKeywordOnly)).map fun entry =>
        (entry.1.name, Plan.standsFor world entity held entry)), store) := by
    apply run_evaluateKeywords
    rw [List.forall₂_map_left_iff, List.forall₂_map_right_iff, List.forall₂_same]
    exact fun entry isIn => ⟨rfl, comes entry (List.mem_filter.mp isIn).1⟩
  simp only [Plan.exclusiveCall, evaluate, bind_eq]
  rw [run_bind_of_ok (run_meaning isBody), run_bind_of_ok positional, run_bind_of_ok keywords]
  rfl

/-- Code that hands the outcome of a call on makes the call first. -/
theorem run_evaluate_routed {call : Expr} {name : String}
    (isWorld : Entries.get? locals name = some world)
    (isRoute : plan.isRouted = true → Means site locals store routeName route) :
    (evaluate site locals (plan.routed (.name name) call)).run store =
      ((evaluate site locals call).bind (plan.handOn site.machine route world)).run store := by
  cases isRouted : plan.isRouted with
  | false =>
    have keeps : plan.handOn site.machine route world = done := by
      funext outcome
      simp [Plan.handOn, isRouted]
    simp only [Plan.routed, isRouted, Bool.false_eq_true, if_false, keeps, bind_done]
  | true =>
    have hands : plan.handOn site.machine route world = fun outcome =>
        site.machine.call route (.ofList [world, outcome]) := by
      funext outcome
      simp [Plan.handOn, isRouted]
    simp only [Plan.routed, isRouted, if_true, Expr.apply, evaluate, evaluateAll,
      evaluateKeywords, bind_eq, Action.bind_assoc, pure_eq_done, done_bind, hands]
    rw [run_bind_of_ok (run_meaning (isRoute isRouted)),
      run_bind_of_ok (run_meaning (.inl isWorld))]
    rfl

/-- The body of the method that applies a record: one call, and the world as the answer of a
chainable command. -/
theorem run_applyBody (isWorld : Entries.get? locals "world" = some world)
    (isRoute : plan.isRouted = true → Means site locals store routeName route)
    (calls : (evaluate site locals (plan.bodyCall Plan.insideRecord)).run store =
      (site.machine.call body (plan.directArguments world entity held)).run store) :
    (runBody site locals plan.applyBody).run store =
      (plan.applied site.machine body route world entity held).run store := by
  have answers : ∀ store : Store,
      ((executeAll site locals (if plan.signature.chainable then [.returns (.name "world")]
        else [])).bind fun progress => done (progress.2.getD .absent)).run store =
      (done (if plan.signature.chainable then world else .absent)).run store := by
    intro store
    cases plan.signature.chainable with
    | false => rfl
    | true =>
      simp only [if_true, executeAll, execute, evaluate, bind_eq, Action.bind_assoc, pure_eq_done,
        done_bind]
      rw [run_bind_of_ok (run_meaning (.inl isWorld))]
      rfl
  have first := (run_evaluate_routed isWorld isRoute).trans (run_bind_congr calls _)
  simp only [runBody, Plan.applyBody, executeAll, execute, bind_eq, Action.bind_assoc,
    pure_eq_done, done_bind]
  rw [run_bind_congr first, Plan.applied, Action.bind_assoc]
  exact run_bind_next (fun outcome _ => run_bind_next (fun _ => answers) _) store

/-! ## Records -/

/-- An object holds values under names: it has them itself, and instances have no use of their own
for any of the names. -/
structure HoldsValues (store : Store) (id : ClassId) (place : Ref) (names : List String)
    (held : String → Value) : Prop where
  own : ∀ name ∈ names, store.ownAttribute? (.object id place) name = some (held name)
  free : ∀ name ∈ names, name ∉ instanceNames

/-- What a record holds is read from it as it is. -/
theorem comes_member {id : ClassId} {place space : Ref} {own : List RecordField}
    {names : List String} {name : String} (record : RecordOf store plan id space own) (intact : store.Intact)
    (holds : HoldsValues store id place names held) (isName : name ∈ names)
    (isSelf : Entries.get? locals "self" = some (.object id place)) :
    Comes site locals store (.member (.name "self") name) (held name) := by
  have unhooked : special? store (.object id place) "__getattribute__" = none :=
    record.record.special?_eq_none intact (by decide) (by decide) (record.hooks _ (by decide))
  have leaves := record.record.leaves intact (holds.free name isName)
  rw [Comes, evaluate, bind_eq, evaluate, run_bind_of_ok (run_meaning (.inl isSelf))]
  exact run_getAttribute_own unhooked leaves (holds.own name isName)

/-- Where the routine takes the world, what is captured is held by the record. -/
theorem mem_fields_of_captured {parameter : Parameter}
    (isRole : (parameter, Role.capturedField) ∈ plan.classification.roles) :
    parameter.name ∈ plan.fields.map Field.name := by
  have isField : ∃ field ∈ Plan.fieldsOf plan.classification.piped (parameter, .capturedField),
      field.name = parameter.name := ⟨_, List.mem_singleton_self _, rfl⟩
  obtain ⟨field, isOne, isName⟩ := isField
  exact List.mem_map.mpr ⟨field, List.mem_flatMap.mpr ⟨_, isRole, isOne⟩, isName⟩

/-- The local variables of the method that applies a record. -/
def applyLocals (plan : Plan) (record world entity : Value) : Bindings :=
  (applyNames plan.forEntity).zip
    (record :: if plan.forEntity then [entity, world] else [world])

theorem get?_applyLocals (plan : Plan) (record world entity : Value) :
    Entries.get? (applyLocals plan record world entity) "self" = some record ∧
      Entries.get? (applyLocals plan record world entity) "world" = some world ∧
      (plan.forEntity = true →
        Entries.get? (applyLocals plan record world entity) "entity" = some entity) := by
  cases isEntity : plan.forEntity with
  | false => simp [applyLocals, applyNames, isEntity, Entries.get?]
  | true => simp [applyLocals, applyNames, isEntity, Entries.get?]

/-- No name that is kept for generated code is a local variable. -/
theorem get?_applyLocals_of_isReserved {record : Value} {name : String}
    (isReserved : Text.isReserved name = true) :
    Entries.get? (applyLocals plan record world entity) name = none := by
  have apart : name ≠ "self" ∧ name ≠ "entity" ∧ name ≠ "world" := by
    refine ⟨?_, ?_, ?_⟩ <;> rintro rfl <;> exact absurd isReserved (by decide)
  cases isEntity : plan.forEntity <;> simp [applyLocals, applyNames, isEntity, Entries.get?,
    Ne.symm apart.1, Ne.symm apart.2.1, Ne.symm apart.2.2]

/-- Where the routine takes the world, the code of a record gives each parameter what it stands
for. -/
theorem comes_argument {id : ClassId} {place space : Ref} {own : List RecordField}
    (accepted : plan.Accepted) (isExclusive : plan.mode = .exclusive)
    (record : RecordOf store plan id space own) (intact : store.Intact)
    (holds : HoldsValues store id place (plan.fields.map Field.name) held)
    {entry : Parameter × Role} (isRole : entry ∈ plan.classification.roles) :
    Comes site (applyLocals plan (.object id place) world entity) store
      (Plan.argument Plan.insideRecord entry) (Plan.standsFor world entity held entry) := by
  obtain ⟨isSelf, isWorld, isEntity⟩ := get?_applyLocals plan (.object id place) world entity
  obtain ⟨notInput, notInjected⟩ := (accepted.exclusive isExclusive).2 entry isRole
  obtain ⟨parameter, role⟩ := entry
  cases role with
  | context => exact run_evaluate_name (.inl isWorld)
  | entity =>
    have forEntity := (accepted.sorts.suits parameter .entity isRole).1
    exact run_evaluate_name (.inl (isEntity forEntity))
  | pipedInput => exact absurd rfl notInput
  | systemParam => exact absurd rfl notInjected
  | capturedField =>
    exact comes_member record intact holds (mem_fields_of_captured isRole) isSelf

/-- The function that a record class has for applying a record calls the routine once. -/
theorem exists_apply {id : ClassId} {place space : Ref} {own : List RecordField} (depth : Nat)
    (world entity : Value) (accepted : plan.Accepted) (isExclusive : plan.mode = .exclusive)
    (record : RecordOf store plan id space own) (intact : store.Intact)
    (binds : Binds store space plan.uses)
    (isRoute : plan.isRouted = true → Entries.get? (store.names space) routeName = some route)
    (holds : HoldsValues store id place (plan.fields.map Field.name) held) :
    ∃ apply, store.find id "apply" = some (.value apply) ∧
      ((Action.machine (depth + 1)).call apply (.ofList (.object id place ::
        if plan.forEntity then [entity, world] else [world]))).run store =
          (plan.applied (Action.machine depth) plan.body route world entity held).run store := by
  obtain ⟨apply, isApply, appliesCode⟩ := record.applies
  obtain ⟨-, isWorld, -⟩ := get?_applyLocals plan (.object id place) world entity
  have notLocal : ∀ name, Text.isReserved name = true →
      Entries.get? (applyLocals plan (.object id place) world entity) name = none :=
    fun _ => get?_applyLocals_of_isReserved
  have isBound := binds ("body", plan.body) (by simp [Plan.uses, Plan.recordUses, Plan.bodyUses])
  have asMany : (applyNames plan.forEntity).length = (Value.object id place ::
      if plan.forEntity then [entity, world] else [world]).length := by
    cases plan.forEntity <;> rfl
  have calls : (evaluate ⟨Action.machine depth, space⟩
      (applyLocals plan (.object id place) world entity) (plan.bodyCall Plan.insideRecord)).run
        store = ((Action.machine depth).call plan.body
          (plan.directArguments world entity held)).run store := by
    rw [Plan.bodyCall, isExclusive]
    exact run_evaluate_exclusiveCall (.inr ⟨notLocal _ (by decide), isBound⟩) fun entry isRole =>
      comes_argument accepted isExclusive record intact holds isRole
  exact ⟨apply, record.record.find_of_put isApply, (run_call_code depth appliesCode asMany).trans
    (run_applyBody isWorld (fun isRouted => .inr ⟨notLocal _ (by decide), isRoute isRouted⟩) calls)⟩

/-- What a generation carries for later: it is as the code of the plan says, with a routine that
runs what the decorated one runs. -/
theorem exists_carries (sound : Sound plan) (intact : before.Intact)
    (isRoutine : before.IsRoutine plan.body function)
    (runs : (generate (Action.machine bound) plan).run before = (.ok generation, after))
    (follows : after.Follows later) :
    ∃ body space own, Carries later { plan with body } generation space own ∧
      Sound { plan with body } ∧ later.Intact ∧
      (∃ home copied, body = .object ClassId.function home ∧
        later.object? home = some (.function copied) ∧
        copied.parameters = function.parameters ∧ copied.body = function.body) ∧
      (plan.isRouted = false → body = plan.body ∧ generation.routine = plan.body) := by
  obtain ⟨routed, space, own, made⟩ := generate_eq_ok sound intact isRoutine runs
  obtain ⟨home, copied, isBody, stands, takes, does⟩ := made.calls
  obtain ⟨changed, stood, takesToo, doesToo⟩ := follows.keeps.functions home copied stands
  have isPlan := made.isPlan
  exact ⟨routed.body, space, own, isPlan ▸ made.carries.of_follows follows, isPlan ▸ made.sound,
    follows.keeps.intact (made.follows.keeps.intact intact),
    ⟨home, changed, isBody, stood, takesToo.trans takes, doesToo.trans does⟩,
    fun unrouted => ⟨(made.unrouted unrouted).1, (made.unrouted unrouted).2⟩⟩

/-- A command was generated for a routine, and since then nothing that it relies on was changed. -/
inductive WasGenerated (plan : Plan) (generation : Generation) (later : Store) : Prop
  | mk {before after : Store} {function : FunctionObject} {bound : Nat} (sound : Sound plan)
      (intact : before.Intact) (isRoutine : before.IsRoutine plan.body function)
      (runs : (generate (Action.machine bound) plan).run before = (.ok generation, after))
      (follows : after.Follows later) : WasGenerated plan generation later

theorem WasGenerated.sound (made : WasGenerated plan generation later) : Sound plan := by
  obtain ⟨sound, -, -, -, -⟩ := made
  exact sound

/-- The routine that a generation runs answers what the decorated one answers, as long as nothing
that the generation relies on is changed. -/
theorem WasGenerated.exists_carries (made : WasGenerated plan generation later) :
    ∃ body space own, Carries later { plan with body } generation space own ∧
      Sound { plan with body } ∧ later.Intact ∧
      (∀ last, later.Follows last → AnswersAlike last plan.body body) ∧
      (plan.isRouted = false → body = plan.body ∧ generation.routine = plan.body) := by
  obtain ⟨sound, intact, isRoutine, runs, follows⟩ := made
  obtain ⟨body, space, own, carries, soundToo, intactLater, isCopy, unrouted⟩ :=
    Code.exists_carries sound intact isRoutine runs follows
  obtain ⟨home, copied, rfl, stands, takes, does⟩ := isCopy
  refine ⟨_, space, own, carries, soundToo, intactLater, fun last followsToo => ?_, unrouted⟩
  obtain ⟨_, _, _, made⟩ := generate_eq_ok sound intact isRoutine runs
  obtain ⟨place, isFunction, stood⟩ := isRoutine.isFunction
  obtain ⟨still, isStill, stillTakes, stillDoes⟩ :=
    ((made.follows.trans follows).trans followsToo).keeps.functions place _ stood
  obtain ⟨copy, isCopy, copyTakes, copyDoes⟩ := followsToo.keeps.functions home copied stands
  rw [isFunction]
  exact answersAlike_of_same isStill isCopy
    ((copyTakes.trans takes).trans stillTakes.symm) ((copyDoes.trans does).trans stillDoes.symm)

/-- Applying a record of a routine that takes the world: the function that the record class has for
it calls the routine once, with what each parameter stands for, and does nothing else but hand the
outcome on. -/
theorem apply_calls_routine {place : Ref} (depth : Nat) (world entity : Value)
    (sound : Sound plan) (intact : before.Intact) (isRoutine : before.IsRoutine plan.body function)
    (runs : (generate (Action.machine bound) plan).run before = (.ok generation, after))
    (follows : after.Follows later) (isExclusive : plan.mode = .exclusive)
    (holds : HoldsValues later generation.recordClass place (plan.fields.map Field.name) held) :
    ∃ apply body route,
      later.find generation.recordClass "apply" = some (.value apply) ∧
      (∃ home copied, body = .object ClassId.function home ∧
        later.object? home = some (.function copied) ∧
        copied.parameters = function.parameters ∧ copied.body = function.body) ∧
      (plan.isRouted = false → body = plan.body) ∧
      (plan.isRouted = true →
        ∃ space, later.RunsCode route (["world", "outcome"].map .plain) plan.routeBody space) ∧
      ((Action.machine (depth + 1)).call apply (.ofList (.object generation.recordClass place ::
        if plan.forEntity then [entity, world] else [world]))).run later =
          (plan.applied (Action.machine depth) body route world entity held).run later := by
  obtain ⟨body, space, own, carries, sound, intactLater, isCopy, unrouted⟩ :=
    exists_carries sound intact isRoutine runs follows
  obtain ⟨route, isRoute, routes⟩ : ∃ route, (plan.isRouted = true →
      Entries.get? (later.names space) routeName = some route) ∧ (plan.isRouted = true →
        later.RunsCode route (["world", "outcome"].map .plain) plan.routeBody space) := by
    cases isRouted : plan.isRouted with
    | false => exact ⟨.absent, by simp, by simp⟩
    | true =>
      obtain ⟨route, routing⟩ := carries.routing isRouted
      exact ⟨route, fun _ => routing.isRoute, fun _ => routing.routes⟩
  obtain ⟨apply, isApply, applies⟩ := exists_apply depth world entity sound.accepted isExclusive
    carries.isAlias.record intactLater carries.binds isRoute holds
  exact ⟨apply, body, route, isApply, isCopy, fun isUnrouted => (unrouted isUnrouted).1,
    fun isRouted => ⟨space, routes isRouted⟩, applies⟩

/-! ## A sample -/

/-- The store in which a record of `pay` stands that holds a number. -/
def paidStore (value : Value) : Store :=
  (Change.allocate .plain [("fee", value)]).apply (payGeneration "fee").2

/-- The arguments of `pay`, whatever is held: the world and what the record holds for the fee. -/
theorem directArguments_pay (world entity : Value) (held : String → Value) :
    (payPlan "fee").directArguments world entity held = .ofList [world, held "fee"] := by
  obtain ⟨-, -, -, -, -, -, -, roles, -⟩ := payPlan_says
  obtain ⟨first, others, isRoles, isFirst, roles⟩ := List.map_eq_cons_iff.mp roles
  obtain ⟨second, rest, rfl, isSecond, roles⟩ := List.map_eq_cons_iff.mp roles
  obtain rfl := List.map_eq_nil_iff.mp roles
  obtain ⟨context, role⟩ := first
  obtain ⟨captured, other⟩ := second
  simp only [Prod.mk.injEq] at isFirst isSecond
  obtain ⟨positional, -, rfl⟩ := isFirst
  obtain ⟨positionalToo, isFee, rfl⟩ := isSecond
  simp [Plan.directArguments, isRoles, positional, positionalToo, Plan.standsFor, isFee,
    Arguments.ofList]

/-- Applying a record of `pay` to a world calls the routine with the world and the number. -/
theorem apply_calls_routine_pay (world : Value) :
    ∃ apply, (paidStore (.ofInt 3)).find (payGeneration "fee").1.recordClass "apply" =
        some (.value apply) ∧
      ((Action.machine 1).call apply (.ofList [.object (payGeneration "fee").1.recordClass
          (payGeneration "fee").2.cells.size, world])).run (paidStore (.ofInt 3)) =
        (((Action.machine 0).call (.object ClassId.function 1) (.ofList [world, .ofInt 3])).bind
          fun _ => done .absent).run (paidStore (.ofInt 3)) := by
  obtain ⟨function, isRoutine⟩ := payPlan_isRoutine
  obtain ⟨-, -, -, isExclusive, forEntity, isRouted, chainable, -, names, -⟩ := payPlan_says
  have holds : HoldsValues (paidStore (.ofInt 3)) (payGeneration "fee").1.recordClass
      (payGeneration "fee").2.cells.size ((payPlan "fee").fields.map Field.name)
        fun _ => .ofInt 3 := by
    rw [names]
    refine ⟨?_, by simp [instanceNames]⟩
    simp [ownAttribute?, paidStore, attributesOf_allocate, Entries.get?]
  have follows : (payGeneration "fee").2.Follows (paidStore (.ofInt 3)) :=
    .of_grows (.allocate _ _ _)
  obtain ⟨apply, body, route, isApply, -, same, -, applies⟩ := apply_calls_routine 0 world .absent
    payPlan_sound.1 (payStore_intact "fee") isRoutine run_generate_pay.1 follows isExclusive holds
  obtain rfl := (same isRouted).trans payPlan_sound.2
  rw [forEntity] at applies
  refine ⟨apply, isApply, applies.trans ?_⟩
  simp [Plan.applied, Plan.handOn, isRouted, chainable, directArguments_pay]

/-- Make a record of `pay` that is given the number two, set the field to one, and apply it. -/
def applyPay (name : String) : Action (Value × Value) := do
  let call := (Action.machine 20).call
  let world ← call (.ofClass ClassId.world) {}
  let record ← call (.cls (payGeneration name).1.recordClass) (.ofList [.ofInt 2])
  setAttribute record name (.ofInt 1)
  let _ ← call (← getAttribute call record "apply") (.ofList [world])
  return (← getAttribute call record name, ← getAttribute call world "paid")

/-- A field whose name is private to the record is not read: the record holds one, and the routine
is called with two. -/
theorem private_field_is_misread :
    ((applyPay "__fee").run (payGeneration "__fee").2).1.isOk = true ∧
      (answerOf (applyPay "__fee") (payGeneration "__fee").2).1.1.same (.ofInt 1) = true ∧
      (answerOf (applyPay "__fee") (payGeneration "__fee").2).1.2.same (.ofInt 2) = true := by
  decide +kernel

end Code

end Deferred
