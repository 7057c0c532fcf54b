import Deferred.Proofs.Applying

/-!
# Routing the outcome

The outcome of a routed command goes to the handler for its branch and to no other.  The handler is
run once, by the world, with the content of the outcome; where the branch has no handler, nothing
more is done.
-/

namespace Deferred

open Store Action

/-- The two branches of an outcome: the class of a branch, and the method that gives its content. -/
inductive Value.Branch (content : Value) : ClassId → String → Value → Prop
  | success (mark : Mark) : Branch content ClassId.success "unwrap" (.success content mark)
  | failure (mark : Mark) : Branch content ClassId.failure "failure" (.failure content mark)

namespace Value.Branch

variable {content outcome : Value} {id other : ClassId} {part name : String} {store : Store}

theorem isHost (branch : Branch content id part outcome) : id ∈ hostClasses := by
  cases branch <;> decide

theorem classId_eq (branch : Branch content id part outcome) : outcome.classId = id := by
  cases branch <;> rfl

theorem find_eq (branch : Branch content id part outcome) (intact : store.Intact) :
    store.find id part = some (.member ClassId.outcome part (.method [])) := by
  have kept : isKept id part = true := by cases branch <;> decide
  rw [intact.find_eq branch.isHost kept]
  cases branch <;> rfl

theorem unhooked (branch : Branch content id part outcome) (intact : store.Intact) :
    special? store outcome "__getattribute__" = none := by
  have kept : isKept id "__getattribute__" = true := by cases branch <;> decide
  have found : store.find outcome.classId "__getattribute__" =
      some (.member ClassId.object "__getattribute__" .other) := by
    rw [branch.classId_eq, intact.find_eq branch.isHost kept]
    cases branch <;> rfl
  exact special?_of_member found

theorem attribute?_eq (branch : Branch content id part outcome) (intact : store.Intact) :
    store.attribute? outcome part = some (.bound outcome (.hostMethod ClassId.outcome part) 0) := by
  have found := branch.find_eq intact
  cases branch <;>
    simp [Store.attribute?, instanceAttribute?, inherited?, Value.classId, found, bindFound,
      classBound?, ownAttribute?, attributesOf, partOf?] <;> rfl

/-- The content of an outcome is what its method answers with. -/
theorem run_getAttribute (branch : Branch content id part outcome) (intact : store.Intact)
    (call : Caller) :
    (getAttribute call outcome part).run store =
      (.ok (.bound outcome (.hostMethod ClassId.outcome part) store.nextMark),
        Change.takeMark.apply store) := by
  have late : lateAttribute? store outcome part = none := by cases branch <;> rfl
  rw [run_getAttribute_found (branch.unhooked intact) late (branch.attribute?_eq intact)]
  cases branch <;> simp [renewed, ownAttribute?, attributesOf, Entries.get?]

theorem run_call (branch : Branch content id part outcome) (depth : Nat) (mark : Mark) :
    ((Action.machine (depth + 2)).call
      (.bound outcome (.hostMethod ClassId.outcome part) mark) {}).run store =
        (.ok content, store) := by
  have called : (Action.machine (depth + 2)).call
      (.bound outcome (.hostMethod ClassId.outcome part) mark) {} =
        callMember (Action.machine depth) ClassId.outcome part (.ofList [outcome]) := rfl
  rw [called]
  cases branch <;> rfl

/-- An outcome is an instance of the class of its own branch, and not of the other one. -/
theorem run_isInstanceOf (branch : Branch content id part outcome) (intact : store.Intact)
    {machine : Machine} (deep : 2 ≤ machine.bound)
    (isBranch : other = ClassId.success ∨ other = ClassId.failure) :
    (isInstanceOf machine outcome (.cls other)).run store =
      (.ok (decide (id = other)), store) := by
  obtain ⟨bound, isDeep⟩ := Nat.exists_eq_add_of_le' deep
  simp only [isInstanceOf, bind_eq, run_store_bind, Value.isClass, branch.classId_eq]
  by_cases same : other = id
  · simp [same]
  · have notAny : other ≠ ClassId.any := by rcases isBranch with rfl | rfl <;> decide
    have apart : store.isInstance outcome other = false := by
      have undeclared : Entries.get? store.generated other = none := by
        rcases isBranch with rfl | rfl <;> exact intact.declared _ _
      rw [Store.isInstance, Store.isSubclass, branch.classId_eq, undeclared,
        intact.ancestors_eq (isDeclared_of_mem_hostClasses branch.isHost)]
      rcases isBranch with rfl | rfl <;> cases branch <;> first | rfl | exact absurd rfl same
    simp [same, isDeep, anyClass, notAny, apart, Ne.symm same]

end Value.Branch

namespace Action

variable {store : Store} {machine : Machine}

theorem run_truth_bool (machine : Machine) (intact : store.Intact) (answer : Bool) :
    (truth machine (.bool answer)).run store = (.ok answer, store) := by
  have bare : special? store (.bool answer) "__bool__" = none := rfl
  have unmeasured : special? store (.bool answer) "__len__" = none := rfl
  have notQuery : store.isSubclass ClassId.bool ClassId.query = false := by
    have undeclared : Entries.get? store.generated ClassId.query = none := intact.declared _ _
    rw [Store.isSubclass, undeclared, Store.ancestors, ClassId.bool, intact.declared]
    rfl
  have isBool : (Value.bool answer).classId = ClassId.bool := rfl
  rw [truth, bind_eq, run_bind_of_ok (run_callSpecial?_none bare)]
  simp only [bind_eq, run_store_bind, unmeasured, isBool, notQuery, Bool.false_eq_true, if_false]
  cases answer <;> rfl

end Action

namespace Code

variable {site : Site} {locals : Bindings} {store reached : Store} {plan : Plan}
  {world outcome content handler run : Value} {id : ClassId} {part : String}

/-! ## Choosing the handler -/

/-- A name that nothing around the code binds means what is always there under it. -/
theorem run_meaning_standard {name : String} {value : Value}
    (notLocal : Entries.get? locals name = none)
    (notName : Entries.get? (store.names site.space) name = none)
    (standard : standardMeaning? name = some value) :
    (meaning site locals name).run store = (.ok value, store) := by
  simp only [meaning, bind_eq, run_store_bind, notLocal, notName, standard, orFail_some, run_done]

theorem standardMeaning?_isinstance :
    standardMeaning? "isinstance" = some (.builtin "isinstance") := by
  have notClass : Standard.className? "isinstance" = none := by decide +kernel
  have isFunction : Standard.functions.contains "isinstance" = true := by decide +kernel
  simp only [standardMeaning?, Value.standard?, notClass, isFunction, if_true]
  rfl

/-- The local variables of the function that hands an outcome on. -/
def routeLocals (world outcome : Value) : Bindings := [("world", world), ("outcome", outcome)]

/-- What the function that hands an outcome on is run among: what it uses is bound, and nothing
hides the test for instances. -/
structure Routes (site : Site) (store : Store) (plan : Plan) (depth : Nat) : Prop where
  onMachine : site.machine = Action.machine (depth + 3)
  binds : Binds store site.space plan.routeUses
  unhidden : Entries.get? (store.names site.space) "isinstance" = none
  intact : store.Intact

theorem Routes.means {depth : Nat} (routes : Routes site store plan depth) {name : String}
    {value : Value} (isUse : (name, value) ∈ plan.routeUses) :
    Means site (routeLocals world outcome) store (Text.reserved name) value := by
  refine .inr ⟨?_, routes.binds _ isUse⟩
  have apart : "world" ≠ Text.reserved name ∧ "outcome" ≠ Text.reserved name := by
    constructor <;> intro same <;> have reserved := Plan.isReserved_reserved name <;>
      rw [← same] at reserved <;> exact absurd reserved (by decide)
  simp [routeLocals, Entries.get?, apart.1, apart.2]

/-- The test of a branch tells whether the outcome belongs to it. -/
theorem run_isOutcome {depth : Nat} {name : String} {other : ClassId}
    (branch : Value.Branch content id part outcome) (routes : Routes site store plan depth)
    (isUse : (name, .cls other) ∈ plan.routeUses)
    (isBranch : other = ClassId.success ∨ other = ClassId.failure) :
    (evaluate site (routeLocals world outcome) (Plan.isOutcome name)).run store =
      (.ok (.bool (decide (id = other))), store) := by
  have isTest : (meaning site (routeLocals world outcome) "isinstance").run store =
      (.ok (.builtin "isinstance"), store) :=
    run_meaning_standard rfl routes.unhidden standardMeaning?_isinstance
  have called : (Action.machine (depth + 3)).call (.builtin "isinstance")
      { positional := [outcome, .cls other], keywords := [] } =
        answering (isInstanceOf (Action.machine (depth + 2)) outcome (.cls other)) := rfl
  simp only [Plan.isOutcome, Expr.apply, evaluate, evaluateAll, evaluateKeywords, bind_eq,
    Action.bind_assoc, pure_eq_done, done_bind]
  rw [run_bind_of_ok isTest, run_bind_of_ok (run_meaning (.inl rfl)),
    run_bind_of_ok (run_meaning (routes.means isUse)), routes.onMachine, called, answering, bind_eq,
    run_bind_of_ok (branch.run_isInstanceOf routes.intact (Nat.le_add_left 2 depth) isBranch)]
  rfl

/-- The world answers for running a routine with a value, and nothing but new objects and marks
comes of asking it. -/
def Runs (call : Caller) (world run : Value) (store reached : Store) : Prop :=
  (getAttribute call world "run_system_once_with").run store = (.ok run, reached) ∧
    store.Grows reached

/-- An untouched world answers for running a routine with a value. -/
theorem runs_of_world {place : Ref} {world : World} (call : Caller) (intact : store.Intact)
    (stands : store.object? place = some (.world world))
    (bare : store.ownAttribute? (.object ClassId.world place) "run_system_once_with" = none) :
    Runs call (.object ClassId.world place)
      (.bound (.object ClassId.world place)
        (.hostMethod ClassId.world "run_system_once_with") store.nextMark)
      store (Change.takeMark.apply store) := by
  have isHost : ClassId.world ∈ hostClasses := by decide
  have hooked : store.find ClassId.world "__getattribute__" =
      some (.member ClassId.object "__getattribute__" .other) := by
    rw [intact.find_eq isHost (by decide)]
    rfl
  have found : store.find ClassId.world "run_system_once_with" =
      some (.member ClassId.world "run_system_once_with"
        (.method [.plain "system", .plain "value"])) := by
    rw [intact.find_eq isHost (by decide)]
    rfl
  have unhooked : special? store (.object ClassId.world place) "__getattribute__" = none :=
    special?_of_member hooked
  have late : lateAttribute? store (.object ClassId.world place) "run_system_once_with" = none := by
    simp [lateAttribute?, bare, fieldAttribute?, objectOf?, stands, lateObjectAttribute?]
  have reads : store.attribute? (.object ClassId.world place) "run_system_once_with" =
      some (.bound (.object ClassId.world place)
        (.hostMethod ClassId.world "run_system_once_with") 0) := by
    simp [Store.attribute?, instanceAttribute?, inherited?, Value.classId, found, bindFound,
      classBound?, bare, partOf?, objectOf?, stands]
    rfl
  refine ⟨?_, .takeMark _⟩
  rw [run_getAttribute_found unhooked late reads]
  simp [renewed, bare]

/-- Handing the content of an outcome to a handler is one call of the world. -/
theorem run_handle {depth : Nat} {name : String}
    (branch : Value.Branch content id part outcome) (routes : Routes site store plan depth)
    (isUse : (name, handler) ∈ plan.routeUses)
    (asks : Runs site.machine.call world run store reached) :
    (executeAll site (routeLocals world outcome) (Plan.handle name part)).run store =
      ((site.machine.call run (.ofList [handler, content])).bind fun _ =>
        done (routeLocals world outcome, none)).run (Change.takeMark.apply reached) := by
  obtain ⟨answers, grows⟩ := asks
  have isHandler : Means site (routeLocals world outcome) reached (Text.reserved name) handler :=
    (routes.means isUse).of_grows grows
  have reads := branch.run_getAttribute (routes.intact.of_grows grows) site.machine.call
  have gives : ∀ store : Store, ((Action.machine (depth + 3)).call
      (.bound outcome (.hostMethod ClassId.outcome part) reached.nextMark) {}).run store =
        (.ok content, store) := fun _ => branch.run_call (depth + 1) _
  simp only [Plan.handle, Expr.send, executeAll, execute, evaluate, evaluateAll, evaluateKeywords,
    bind_eq, Action.bind_assoc, pure_eq_done, done_bind]
  rw [run_bind_of_ok (run_meaning (.inl rfl)), run_bind_of_ok answers,
    run_bind_of_ok (run_meaning isHandler), run_bind_of_ok (run_meaning (.inl rfl)),
    run_bind_of_ok reads, routes.onMachine, run_bind_of_ok (gives _)]
  rfl

/-- A branch that has a handler is run if the outcome belongs to it; else the rest is tried. -/
theorem run_optionalBranch {depth : Nat} {name : String} {other : ClassId} {handler? : Option Value}
    {body : List Statement} {rest : List (Expr × List Statement)}
    (branch : Value.Branch content id part outcome) (routes : Routes site store plan depth)
    (uses : handler?.isSome = true → (name, .cls other) ∈ plan.routeUses)
    (isBranch : other = ClassId.success ∨ other = ClassId.failure) :
    (executeBranches site (routeLocals world outcome)
        ((if handler?.isSome then [(Plan.isOutcome name, body)] else []) ++ rest)).run store =
      if handler?.isSome = true ∧ id = other then
        (executeAll site (routeLocals world outcome) body).run store
      else (executeBranches site (routeLocals world outcome) rest).run store := by
  cases hasHandler : handler?.isSome with
  | false => simp
  | true =>
    simp only [if_true, List.cons_append, List.nil_append, true_and, executeBranches, bind_eq]
    rw [run_bind_of_ok (run_isOutcome branch routes (uses hasHandler) isBranch),
      run_bind_of_ok (run_truth_bool _ routes.intact _)]
    by_cases same : id = other <;> simp [same]

/-- Running branches is all that the function does that hands an outcome on. -/
theorem run_choose (branches : List (Expr × List Statement)) :
    (runBody site locals [.choose branches]).run store =
      ((executeBranches site locals branches).bind fun progress =>
        done (progress.2.getD .absent)).run store := by
  simp only [runBody, executeAll, execute, bind_eq, Action.bind_assoc, pure_eq_done]
  refine run_bind_next (fun progress _ => ?_) store
  obtain ⟨locals, answer⟩ := progress
  cases answer <;> rfl

end Code

/-- The handler for a branch. -/
def Plan.handler? (plan : Plan) (branch : ClassId) : Option Value :=
  if branch = ClassId.success then plan.options.onSuccess else plan.options.onFailure

namespace Code

variable {site : Site} {store reached : Store} {plan : Plan} {world outcome content run : Value}
  {id : ClassId} {part : String}

/-- What a routed command uses for a branch that has a handler. -/
theorem branch_uses (plan : Plan) :
    (∀ handler, plan.options.onSuccess = some handler →
      ("Success", .cls ClassId.success) ∈ plan.routeUses ∧ ("ok", handler) ∈ plan.routeUses) ∧
    (∀ handler, plan.options.onFailure = some handler →
      ("Failure", .cls ClassId.failure) ∈ plan.routeUses ∧ ("err", handler) ∈ plan.routeUses) := by
  refine ⟨fun handler isHandler => ?_, fun handler isHandler => ?_⟩ <;>
    simp [Plan.routeUses, isHandler, Value.ofClass]

/-- The function that hands an outcome on runs one of two branches, or none. -/
theorem run_branches {depth : Nat} (branch : Value.Branch content id part outcome)
    (routes : Routes site store plan depth) :
    ∃ branches, plan.routeBody = [.choose branches] ∧
      (executeBranches site (routeLocals world outcome) branches).run store =
        if plan.options.onSuccess.isSome = true ∧ id = ClassId.success then
          (executeAll site (routeLocals world outcome) (Plan.handle "ok" "unwrap")).run store
        else if plan.options.onFailure.isSome = true ∧ id = ClassId.failure then
          (executeAll site (routeLocals world outcome) (Plan.handle "err" "failure")).run store
        else (.ok (routeLocals world outcome, none), store) := by
  obtain ⟨ofSuccess, ofFailure⟩ := branch_uses plan
  refine ⟨_, rfl, ?_⟩
  rw [← List.append_nil (if plan.options.onFailure.isSome then _ else _),
    run_optionalBranch branch routes ?_ (.inl rfl), run_optionalBranch branch routes ?_ (.inr rfl)]
  · rfl
  · intro hasHandler
    exact (ofFailure _ (Option.eq_some_of_isSome hasHandler)).1
  · intro hasHandler
    exact (ofSuccess _ (Option.eq_some_of_isSome hasHandler)).1

/-- The function that hands an outcome on: it has the handler for the branch run once with the
content, and does nothing where the branch has no handler. -/
theorem run_routeBody {depth : Nat} (branch : Value.Branch content id part outcome)
    (routes : Routes site store plan depth)
    (asks : Runs site.machine.call world run store reached) :
    (∀ handler, plan.handler? id = some handler →
      (runBody site (routeLocals world outcome) plan.routeBody).run store =
        ((site.machine.call run (.ofList [handler, content])).bind fun _ => done .absent).run
          (Change.takeMark.apply reached)) ∧
      (plan.handler? id = none →
        (runBody site (routeLocals world outcome) plan.routeBody).run store =
          (.ok .absent, store)) := by
  obtain ⟨ofSuccess, ofFailure⟩ := branch_uses plan
  obtain ⟨branches, isBody, chooses⟩ := run_branches branch routes
  rw [isBody, run_choose]
  refine ⟨fun handler isHandler => ?_, fun noHandler => ?_⟩
  · have handles : (executeBranches site (routeLocals world outcome) branches).run store =
        ((site.machine.call run (.ofList [handler, content])).bind fun _ =>
          done (routeLocals world outcome, none)).run (Change.takeMark.apply reached) := by
      rw [chooses]
      cases branch with
      | success mark =>
        have isOk : plan.options.onSuccess = some handler := isHandler
        rw [if_pos ⟨by simp [isOk], rfl⟩]
        exact run_handle (.success mark) routes (ofSuccess _ isOk).2 asks
      | failure mark =>
        have isErr : plan.options.onFailure = some handler := isHandler
        rw [if_neg (fun both => absurd both.2 (by decide)), if_pos ⟨by simp [isErr], rfl⟩]
        exact run_handle (.failure mark) routes (ofFailure _ isErr).2 asks
    rw [run_bind_congr handles, Action.bind_assoc]
    rfl
  · have skips : (executeBranches site (routeLocals world outcome) branches).run store =
        (.ok (routeLocals world outcome, none), store) := by
      rw [chooses]
      cases branch with
      | success mark =>
        have noOk : plan.options.onSuccess = none := noHandler
        simp [noOk, ClassId.success, ClassId.failure]
      | failure mark =>
        have noErr : plan.options.onFailure = none := noHandler
        simp [noErr, ClassId.success, ClassId.failure]
    rw [run_bind_of_ok skips]
    rfl

/-! ## The public routine -/

/-- The names of the parameters that take the world and the entity. -/
def contextName (plan : Plan) : String :=
  (plan.classification.context.map Parameter.name).getD ""

def targetName (plan : Plan) : String :=
  (plan.classification.entity.map Parameter.name).getD ""

/-- What the public routine does with its parameters is what applying a record does that holds
them. -/
def appliedTo (plan : Plan) (machine : Machine) (body route : Value) (locals : Bindings) :
    Action Value :=
  plan.applied machine body route (meant locals (contextName plan))
    (meant locals (targetName plan)) (meant locals)

/-- What the method that applies a record is given: the record, and the world and the entity as the
local variables of the public routine have them. -/
def applyArguments (plan : Plan) (record : Value) (locals : Bindings) : Arguments :=
  .ofList (record :: if plan.forEntity then
    [meant locals (targetName plan), meant locals (contextName plan)]
  else [meant locals (contextName plan)])

/-- A routed command is not chainable. -/
theorem chainable_of_isRouted (accepted : plan.Accepted) (isRouted : plan.isRouted = true) :
    plan.signature.chainable = false := by
  have routing := accepted.routing
  rw [Plan.isRouted] at isRouted
  cases chainable : plan.signature.chainable with
  | false => rfl
  | true => simp [checkRouting, isRouted, chainable] at routing

/-- Where the routine takes the world, each parameter of the public routine stands for itself. -/
theorem comes_parameter {locals : Bindings} (accepted : plan.Accepted)
    (isExclusive : plan.mode = .exclusive)
    (isLocal : ∀ entry ∈ plan.classification.roles,
      Entries.get? locals entry.1.name = some (meant locals entry.1.name))
    {entry : Parameter × Role} (isRole : entry ∈ plan.classification.roles) :
    Comes site locals store
      (Plan.argument (Plan.insideRoutine (contextName plan) (targetName plan)) entry)
      (Plan.standsFor (meant locals (contextName plan)) (meant locals (targetName plan))
        (meant locals) entry) := by
  obtain ⟨notInput, notInjected⟩ := (accepted.exclusive isExclusive).2 entry isRole
  have ofName : Comes site locals store (.name entry.1.name) (meant locals entry.1.name) :=
    run_evaluate_name (.inl (isLocal entry isRole))
  obtain ⟨parameter, role⟩ := entry
  cases role with
  | context =>
    have isContext : contextName plan = parameter.name := by
      simp [contextName, (accepted.sorts.context parameter).mp isRole]
    simpa only [Plan.argument, Plan.insideRoutine, Plan.standsFor, isContext] using ofName
  | entity =>
    have isTarget : targetName plan = parameter.name := by
      simp [targetName, accepted.sorts.entity parameter isRole]
    simpa only [Plan.argument, Plan.insideRoutine, Plan.standsFor, isTarget] using ofName
  | pipedInput => exact absurd rfl notInput
  | systemParam => exact absurd rfl notInjected
  | capturedField => exact ofName

/-- Where the routine takes the world, the public routine does with its parameters what applying a
record does that holds them. -/
theorem run_routineBody {locals : Bindings} {body route : Value} (accepted : plan.Accepted)
    (isExclusive : plan.mode = .exclusive) (isRouted : plan.isRouted = true)
    (isBody : Means site locals store Plan.bodyName body)
    (isRoute : Means site locals store routeName route)
    (isLocal : ∀ entry ∈ plan.classification.roles,
      Entries.get? locals entry.1.name = some (meant locals entry.1.name)) :
    (runBody site locals plan.routineBody).run store =
      (appliedTo plan site.machine body route locals).run store := by
  have isContext : Entries.get? locals (contextName plan) =
      some (meant locals (contextName plan)) := by
    obtain ⟨parameter, context⟩ := Option.isSome_iff_exists.mp (accepted.exclusive isExclusive).1
    have isRole := (accepted.sorts.context parameter).mpr context
    simpa [contextName, context] using isLocal _ isRole
  have written : plan.routineBody = [.expression (plan.routed (.name (contextName plan))
      (plan.exclusiveCall (Plan.insideRoutine (contextName plan) (targetName plan))))] := by
    simp only [Plan.routineBody, isExclusive, Plan.routed, isRouted, if_true, Plan.bodyCall]
    rfl
  have calls : (evaluate site locals (plan.routed (.name (contextName plan))
      (plan.exclusiveCall (Plan.insideRoutine (contextName plan) (targetName plan))))).run store =
        ((site.machine.call body (plan.directArguments (meant locals (contextName plan))
          (meant locals (targetName plan)) (meant locals))).bind
            (plan.handOn site.machine route (meant locals (contextName plan)))).run store :=
    (run_evaluate_routed isContext fun _ => isRoute).trans (run_bind_congr
      (run_evaluate_exclusiveCall isBody fun entry isRole =>
        comes_parameter accepted isExclusive isLocal isRole) _)
  simp only [written, runBody, executeAll, execute, bind_eq, Action.bind_assoc, pure_eq_done,
    done_bind]
  rw [run_bind_congr calls, appliedTo, Plan.applied, chainable_of_isRouted accepted isRouted,
    Action.bind_assoc]
  rfl

/-! ## The paths to a handler -/

/-- What is left when an outcome was handed on: the handler for its branch was run with its content,
or nothing was done. -/
def handled (plan : Plan) (machine : Machine) (run : Value) (branch : ClassId) (content : Value)
    (between reached : Store) : Except Fault Value × Store :=
  (plan.handler? branch).elim (.ok .absent, between) fun handler =>
    ((machine.call run (.ofList [handler, content])).bind fun _ => done .absent).run
      (Change.takeMark.apply reached)

/-- Once the routine has answered with an outcome, the handler for its branch is all that is run. -/
theorem run_applied {depth : Nat} {space : Ref} {body route entity : Value}
    {held : String → Value} {between : Store} (isRouted : plan.isRouted = true)
    (unchained : plan.signature.chainable = false)
    (calls : ((Action.machine (depth + 4)).call body (plan.directArguments world entity held)).run
      store = (.ok outcome, between))
    (handsOn : between.RunsCode route (["world", "outcome"].map .plain) plan.routeBody space)
    (routes : Routes ⟨Action.machine (depth + 3), space⟩ between plan depth)
    (branch : Value.Branch content id part outcome)
    (asks : Runs (Action.machine (depth + 3)).call world run between reached) :
    (plan.applied (Action.machine (depth + 4)) body route world entity held).run store =
      handled plan (Action.machine (depth + 3)) run id content between reached := by
  have handed : ((Action.machine (depth + 4)).call route (.ofList [world, outcome])).run between =
      handled plan (Action.machine (depth + 3)) run id content between reached := by
    rw [run_call_code (depth + 3) handsOn rfl]
    obtain ⟨some, none⟩ := run_routeBody branch routes asks
    cases isHandler : plan.handler? id with
    | none =>
      simp only [handled, isHandler, Option.elim_none]
      exact none isHandler
    | some handler =>
      simp only [handled, isHandler, Option.elim_some]
      exact some handler isHandler
  rw [Plan.applied, run_bind_of_ok calls]
  simp only [Plan.handOn, isRouted, if_true, unchained, Bool.false_eq_true, if_false]
  cases isHandler : plan.handler? id with
  | none =>
    simp only [handled, isHandler, Option.elim_none] at handed ⊢
    rw [run_bind_of_ok handed]
    rfl
  | some handler =>
    simp only [handled, isHandler, Option.elim_some] at handed ⊢
    rw [run_bind_congr handed, Action.bind_assoc]
    rfl

/-- The public routine of a command that takes the world takes what is declared. -/
theorem routineTakes_exclusive (isExclusive : plan.mode = .exclusive) :
    routineTakes plan = plan.signature.parameters.map declaredParameter := by
  simp only [routineTakes, isExclusive]

/-- Arguments that fit the declared parameters leave a local variable for each of them, and none
that is kept for generated code. -/
theorem locals_of_binds {arguments : Arguments} {locals : Bindings} {owner : String}
    {before after : Store} (accepted : plan.Accepted)
    (binds : (arguments.bindTo owner (plan.signature.parameters.map declaredParameter)).run before =
      (.ok locals, after)) :
    (∀ entry ∈ plan.classification.roles,
      Entries.get? locals entry.1.name = some (meant locals entry.1.name)) ∧
      (∀ name, Text.isReserved name = true → Entries.get? locals name = none) ∧
      before.Grows after := by
  obtain ⟨keys, grows⟩ := Arguments.bindTo_eq_ok binds
  have isKey : ∀ name, name ∈ Entries.keys locals ↔
      ∃ parameter ∈ plan.signature.parameters, parameter.name = name := by
    intro name
    simp [Entries.keys, keys, declaredParameter]
  refine ⟨fun entry isRole => ?_, fun name isReserved => ?_, grows⟩
  · have isBound := (isKey entry.1.name).mpr ⟨entry.1, accepted.mem_parameters isRole, rfl⟩
    cases found : Entries.get? locals entry.1.name with
    | none => exact absurd isBound (Entries.get?_eq_none_iff.mp found)
    | some value => simp [meant, found]
  · rw [Entries.get?_eq_none_iff, isKey]
    rintro ⟨parameter, isParameter, rfl⟩
    rw [(accepted.sorts.named parameter isParameter).2.2] at isReserved
    cases isReserved

/-- Where a generation is carried, both paths to a routed outcome lead to one handler. -/
theorem outcome_paths_of_carries {place space : Ref} {own : List RecordField} {arguments : Arguments}
    {locals : Bindings} {owner : String} {generation : Generation} {earlier later : Store}
    (depth : Nat) (carries : Carries earlier plan generation space own) (sound : Sound plan)
    (intact : earlier.Intact) (isExclusive : plan.mode = .exclusive)
    (isRouted : plan.isRouted = true)
    (unhidden : plan.options.recordName ≠ "isinstance" ∧ plan.options.extensionName ≠ "isinstance")
    (binds : (arguments.bindTo owner
      (plan.signature.parameters.map declaredParameter)).run earlier = (.ok locals, later))
    (holds : HoldsValues later generation.recordClass place (plan.fields.map Field.name)
      (meant locals)) :
    ∃ apply, later.find generation.recordClass "apply" = some (.value apply) ∧
      ∀ {id : ClassId} {part : String} {content outcome run : Value} {between reached : Store},
        Value.Branch content id part outcome →
        ((Action.machine (depth + 4)).call plan.body (plan.directArguments
          (meant locals (contextName plan)) (meant locals (targetName plan)) (meant locals))).run
            later = (.ok outcome, between) →
        later.Follows between →
        Runs (Action.machine (depth + 3)).call (meant locals (contextName plan)) run between
          reached →
        ((Action.machine (depth + 5)).call apply
            (applyArguments plan (.object generation.recordClass place) locals)).run later =
          handled plan (Action.machine (depth + 3)) run id content between reached ∧
        ((Action.machine (depth + 5)).call generation.routine arguments).run earlier =
          handled plan (Action.machine (depth + 3)) run id content between reached := by
  obtain ⟨isLocal, notLocal, grows⟩ := locals_of_binds sound.accepted binds
  have carriesLater := carries.of_follows (.of_grows grows)
  have intactLater := intact.of_grows grows
  have bindsUses := carriesLater.binds
  obtain ⟨route, routing⟩ := carries.routing isRouted
  have isRoute : Entries.get? (later.names space) routeName = some route :=
    grows.name? routing.isRoute
  have routes := (Keeps.of_grows grows).runsCode routing.routes
  have isBody : Means ⟨Action.machine (depth + 4), space⟩ locals later Plan.bodyName plan.body :=
    .inr ⟨notLocal _ (by decide), bindsUses ("body", plan.body)
      (by simp [Plan.uses, Plan.recordUses, Plan.bodyUses])⟩
  have isUse : ∀ use ∈ plan.routeUses, use ∈ plan.uses := by
    intro use isUse
    simp [Plan.uses, isRouted, Plan.routingUses, isUse]
  obtain ⟨apply, isApply, applies⟩ := exists_apply (depth + 4) (meant locals (contextName plan))
    (meant locals (targetName plan)) sound.accepted isExclusive carriesLater.isAlias.record
    intactLater bindsUses (fun _ => isRoute) holds
  have answers := run_call_bound (depth + 4) routing.answers
    ((routineTakes_exclusive isExclusive) ▸ binds)
  refine ⟨apply, isApply, ?_⟩
  intro id part content outcome run between reached branch calls follows asks
  have stillRoutes : Routes ⟨Action.machine (depth + 3), space⟩ between plan depth :=
    { onMachine := rfl
      binds := fun use isIn => by
        rw [follows.names_eq carriesLater.isSpace, bindsUses use (isUse use isIn)]
      unhidden := by
        rw [follows.names_eq carriesLater.isSpace]
        exact carriesLater.plain _ (by decide) (by simp [Ne.symm unhidden.1, Ne.symm unhidden.2])
      intact := follows.keeps.intact intactLater }
  have reaches := run_applied isRouted (chainable_of_isRouted sound.accepted isRouted) calls
    (follows.keeps.runsCode routes) stillRoutes branch asks
  have ofRoutine := run_routineBody sound.accepted isExclusive isRouted isBody
    (.inr ⟨notLocal _ (by decide), isRoute⟩) isLocal
  exact ⟨applies.trans reaches, answers.trans (ofRoutine.trans reaches)⟩

/-- Where a routed command was generated, both paths lead to the handler for the branch of what the
routine answers. -/
theorem outcome_paths {place : Ref} {arguments : Arguments} {locals : Bindings} {owner : String}
    {generation : Generation} {earlier later : Store} (depth : Nat)
    (made : WasGenerated plan generation earlier) (isExclusive : plan.mode = .exclusive)
    (isRouted : plan.isRouted = true)
    (unhidden : plan.options.recordName ≠ "isinstance" ∧ plan.options.extensionName ≠ "isinstance")
    (binds : (arguments.bindTo owner
      (plan.signature.parameters.map declaredParameter)).run earlier = (.ok locals, later))
    (holds : HoldsValues later generation.recordClass place (plan.fields.map Field.name)
      (meant locals)) :
    ∃ apply, later.find generation.recordClass "apply" = some (.value apply) ∧
      ∀ {id : ClassId} {part : String} {content outcome run : Value} {between reached : Store},
        Value.Branch content id part outcome →
        ((Action.machine (depth + 4)).call plan.body (plan.directArguments
          (meant locals (contextName plan)) (meant locals (targetName plan)) (meant locals))).run
            later = (.ok outcome, between) →
        later.Follows between →
        Runs (Action.machine (depth + 3)).call (meant locals (contextName plan)) run between
          reached →
        ((Action.machine (depth + 5)).call apply
            (applyArguments plan (.object generation.recordClass place) locals)).run later =
          handled plan (Action.machine (depth + 3)) run id content between reached ∧
        ((Action.machine (depth + 5)).call generation.routine arguments).run earlier =
          handled plan (Action.machine (depth + 3)) run id content between reached := by
  obtain ⟨body, space, own, carries, sound, intact, alike, -⟩ := made.exists_carries
  obtain ⟨-, -, grows⟩ := locals_of_binds sound.accepted binds
  obtain ⟨apply, isApply, paths⟩ :=
    outcome_paths_of_carries depth carries sound intact isExclusive isRouted unhidden binds holds
  exact ⟨apply, isApply, fun branch calls => paths branch (alike later (.of_grows grows) calls)⟩

/-- Where the outcome of a routed command goes whose routine takes the world.  Applying a record and
calling the public routine with what the record holds have the routine called once, with the same
arguments in the same state.  Then the handler for the branch of the outcome is run once with its
content, and no other handler is; where the branch has no handler, nothing more is done.  Nothing is
answered. -/
theorem outcome_reaches_its_handler {place : Ref} {arguments : Arguments} {locals : Bindings}
    {owner : String} {generation : Generation} {earlier later : Store} (depth : Nat)
    (made : WasGenerated plan generation earlier) (isExclusive : plan.mode = .exclusive)
    (isRouted : plan.isRouted = true)
    (unhidden : plan.options.recordName ≠ "isinstance" ∧ plan.options.extensionName ≠ "isinstance")
    (binds : (arguments.bindTo owner
      (plan.signature.parameters.map declaredParameter)).run earlier = (.ok locals, later))
    (holds : HoldsValues later generation.recordClass place (plan.fields.map Field.name)
      (meant locals)) :
    ∃ apply, later.find generation.recordClass "apply" = some (.value apply) ∧
      ∀ {id : ClassId} {part : String} {content outcome run : Value} {between reached : Store},
        Value.Branch content id part outcome →
        ((Action.machine (depth + 4)).call plan.body (plan.directArguments
          (meant locals (contextName plan)) (meant locals (targetName plan)) (meant locals))).run
            later = (.ok outcome, between) →
        later.Follows between →
        Runs (Action.machine (depth + 3)).call (meant locals (contextName plan)) run between
          reached →
        ((Action.machine (depth + 5)).call apply
            (applyArguments plan (.object generation.recordClass place) locals)).run later =
          ((Action.machine (depth + 5)).call generation.routine arguments).run earlier ∧
        (∀ handler, plan.handler? id = some handler →
          ((Action.machine (depth + 5)).call generation.routine arguments).run earlier =
            (((Action.machine (depth + 3)).call run (.ofList [handler, content])).bind fun _ =>
              done .absent).run (Change.takeMark.apply reached)) ∧
        (plan.handler? id = none →
          ((Action.machine (depth + 5)).call generation.routine arguments).run earlier =
            (.ok .absent, between)) := by
  obtain ⟨apply, isApply, paths⟩ :=
    outcome_paths depth made isExclusive isRouted unhidden binds holds
  refine ⟨apply, isApply, ?_⟩
  intro id part content outcome run between reached branch calls follows asks
  obtain ⟨applies, answers⟩ := paths branch calls follows asks
  refine ⟨applies.trans answers.symm, fun handler isHandler => ?_, fun noHandler => ?_⟩
  · simpa only [handled, isHandler, Option.elim_some] using answers
  · simpa only [handled, noHandler, Option.elim_none] using answers

/-! ## A sample -/

/-- A module with a function in it, `take`, that takes the world and whatever else, a function for
what comes of a success, and a function that finds a third one, `quiet`, under every name. -/
def takeModule (extra : List CallParameter) (body : Script) : Store where
  modules :=
    { made := [("game_mod", [("quiet", .object ClassId.function 4)])], listed := ["game_mod"] }
  cells := #[
    { object := .dict [(.ofText "world", .ofText "World"),
        (.ofText "__getattribute__", .ofText "object"),
        (.ofText "return", .ofText "Result[int, str]")] },
    { object := .function
        { name := "take", qualname := "take", home := .ofText "game_mod", doc := .absent
          parameters := .plain "world" :: extra
          annotations := .object ClassId.dict 0
          body := .script body 5
          names := [("World", .cls ClassId.world), ("Result", .cls ClassId.outcome),
            ("object", .cls ClassId.object)] } },
    { object := .function
        { name := "on_ok", qualname := "on_ok", home := .ofText "game_mod", doc := .absent
          parameters := [.plain "value"], annotations := .object ClassId.dict 6, body := .inert
          names := [("In", .cls ClassId.input), ("object", .cls ClassId.object)] } },
    { object := .function
        { name := "hook", qualname := "hook", home := .ofText "game_mod", doc := .absent
          parameters := [.plain "record", .plain "name"], annotations := .absent
          body := .script (.datum (.function "quiet")) 5, names := [] } },
    { object := .function
        { name := "quiet", qualname := "quiet", home := .ofText "game_mod", doc := .absent
          parameters := [.plain "world"], annotations := .absent, body := .inert, names := [] } },
    { object := .scope "game_mod" [] },
    { object := .dict [(.ofText "value", .ofText "In[object]")] }]

/-- The plan for `take` with its handler, and a name for its record. -/
def takePlan (store : Store) (recordName : String) : Plan :=
  (answerOf (planFor (.object ClassId.function 1)
    [("ok", .object ClassId.function 2), ("struct_name", .ofText recordName)] false) store).1

/-- What is generated for `take`, and the store that is left. -/
def takeGeneration (store : Store) (recordName : String) : Generation × Store :=
  answerOf (generate (Action.machine 20) (takePlan store recordName)) store

/-- The module in which `take` takes nothing but the world and answers with the success of one. -/
def takeStore : Store := takeModule [] (.success (.datum (.int 1)))

theorem takeStore_intact : takeStore.Intact where
  declared _ _ := rfl
  unchanged _ _ _ _ _ _ := ⟨rfl, by simp [takeStore, takeModule]⟩
  settled _ _ _ _ isPut := by cases isPut
  numbered _ _ _ _ := ⟨rfl, rfl⟩

/-- A plan for `take` that was made and checked is sound. -/
theorem takePlan_sound {recordName : String}
    (checked : ((planFor (.object ClassId.function 1) [("ok", .object ClassId.function 2),
        ("struct_name", .ofText recordName)] false).run takeStore).1.isOk = true ∧
      Checked (takePlan takeStore recordName)) :
    Sound (takePlan takeStore recordName) ∧
      (takePlan takeStore recordName).body = .object ClassId.function 1 := by
  obtain ⟨accepted, isBody⟩ : (takePlan takeStore recordName).Accepted ∧
      (takePlan takeStore recordName).body = .object ClassId.function 1 := by
    unfold takePlan
    exact planFor_eq_ok (run_eq_answerOf checked.1)
  exact ⟨.of_checked accepted checked.2, isBody⟩

theorem takeStore_isRoutine : ∃ function,
    takeStore.IsRoutine (.object ClassId.function 1) function ∧
      function.parameters = [.plain "world"] ∧
      function.body = .script (.success (.datum (.int 1))) 5 := by
  refine ⟨_, ⟨⟨1, rfl, rfl⟩, ?_⟩, rfl, rfl⟩
  simp [KeepsParts, attributesOf, takeStore, takeModule, Store.cell?]

/-- A function that does what `take` does answers with the success of one. -/
theorem run_call_take {store : Store} {home : Ref} {copied : FunctionObject} (depth : Nat)
    (world : Value) (stands : store.object? home = some (.function copied))
    (takes : copied.parameters = [.plain "world"])
    (does : copied.body = .script (.success (.datum (.int 1))) 5) :
    ∃ between, ((Action.machine (depth + 1)).call (.object ClassId.function home)
        (.ofList [world])).run store =
        (.ok (.success (.int 1 store.nextMark) (store.nextMark + 1)), between) ∧
      store.Grows between := by
  have called : ∀ arguments, (Action.machine (depth + 1)).call (.object ClassId.function home)
      arguments = callStep (Action.machine depth) (.object ClassId.function home) arguments :=
    fun _ => rfl
  have binds : (Arguments.bindTo copied.qualname [.plain "world"] (.ofList [world])).run store =
      (.ok [("world", world)], store) :=
    @Arguments.run_bindTo_plain store ["world"] [world] copied.qualname rfl
  simp only [called, callStep, bind_eq, run_store_bind, stands, callFunction, does, takes]
  rw [run_bind_of_ok binds, runScript, bind_eq, run_store_bind, bind_eq, run_allocate_bind]
  simp only [Script.evaluate, Datum.make, bind_eq]
  exact ⟨_, rfl, ((Grows.allocate _ _ _).trans (.takeMark _)).trans (.takeMark _)⟩

/-- What a plan for `take` says, as far as it can be computed. -/
structure Takes (plan : Plan) : Prop where
  mode : plan.mode = .exclusive
  isRouted : plan.isRouted = true
  forEntity : plan.forEntity = false
  hasHandler : plan.options.onSuccess.isSome = true
  noFields : plan.fields.map Field.name = []
  context : contextName plan = "world"
  parameters : plan.signature.parameters.map
    (fun parameter => (parameter.name, parameter.kind, parameter.default.isNone)) =
      [("world", .positional, true)]
  roles : plan.classification.roles.map (fun entry => (entry.1.isKeywordOnly, entry.2)) =
    [(false, .context)]

instance (plan : Plan) : Decidable (Takes plan) :=
  decidable_of_iff (_ ∧ _ ∧ _ ∧ _ ∧ _ ∧ _ ∧ _ ∧ _)
    ⟨fun all => ⟨all.1, all.2.1, all.2.2.1, all.2.2.2.1, all.2.2.2.2.1, all.2.2.2.2.2.1,
      all.2.2.2.2.2.2.1, all.2.2.2.2.2.2.2⟩,
      fun takes => ⟨takes.mode, takes.isRouted, takes.forEntity, takes.hasHandler, takes.noFields,
        takes.context, takes.parameters, takes.roles⟩⟩

theorem Takes.declared {plan : Plan} (takes : Takes plan) :
    plan.signature.parameters.map declaredParameter = [.plain "world"] := by
  obtain ⟨parameter, _, isParameter, isWorld, none⟩ := List.map_eq_cons_iff.mp takes.parameters
  obtain rfl := List.map_eq_nil_iff.mp none
  simp only [Prod.mk.injEq, Option.isNone_iff_eq_none] at isWorld
  rw [isParameter, List.map_singleton, declaredParameter, isWorld.1, isWorld.2.1, isWorld.2.2]
  rfl

theorem Takes.directArguments {plan : Plan} (takes : Takes plan) (world entity : Value)
    (held : String → Value) : plan.directArguments world entity held = .ofList [world] := by
  obtain ⟨entry, _, isRole, isContext, none⟩ := List.map_eq_cons_iff.mp takes.roles
  obtain rfl := List.map_eq_nil_iff.mp none
  obtain ⟨parameter, role⟩ := entry
  simp only [Prod.mk.injEq] at isContext
  simp [Plan.directArguments, isRole, isContext, Plan.standsFor, Arguments.ofList]

/-- Put a record without fields into a store, and a world beside it. -/
def besideWorld (store : Store) : Store :=
  (Change.allocate (.world {}) []).apply ((Change.allocate .plain []).apply store)

/-- That world. -/
def worldOf (store : Store) : Value :=
  .object ClassId.world ((Change.allocate .plain []).apply store).cells.size

theorem follows_besideWorld (store : Store) : store.Follows (besideWorld store) :=
  .of_grows ((Grows.allocate _ _ _).trans (.allocate _ _ _))

theorem holds_besideWorld {store : Store} {id : ClassId} {plan : Plan} (takes : Takes plan)
    (held : String → Value) :
    HoldsValues (besideWorld store) id store.cells.size (plan.fields.map Field.name) held := by
  rw [takes.noFields]
  exact ⟨by simp, by simp⟩

theorem binds_besideWorld {store : Store} {plan : Plan} (takes : Takes plan) :
    ((Arguments.ofList [worldOf store]).bindTo "" (plan.signature.parameters.map
        declaredParameter)).run (besideWorld store) =
      (.ok [("world", worldOf store)], besideWorld store) := by
  rw [takes.declared]
  exact @Arguments.run_bindTo_plain _ ["world"] [worldOf store] "" rfl

theorem meant_world {plan : Plan} (takes : Takes plan) (world : Value) :
    meant [("world", world)] (contextName plan) = world := by
  rw [takes.context]
  rfl

theorem Takes.applyArguments {plan : Plan} (takes : Takes plan) (record world : Value) :
    applyArguments plan record [("world", world)] = .ofList [record, world] := by
  simp [Code.applyArguments, takes.forEntity, meant_world takes]

/-- Where `take` still does what it did, it answers with the success of one, and the world can be
asked to run a handler. -/
theorem exists_outcome {store : Store} {home : Ref} {copied : FunctionObject} (depth : Nat)
    (intact : store.Intact) (stands : (besideWorld store).object? home = some (.function copied))
    (takes : copied.parameters = [.plain "world"])
    (does : copied.body = .script (.success (.datum (.int 1))) 5) :
    ∃ content mark between,
      ((Action.machine (depth + 4)).call (.object ClassId.function home)
        (.ofList [worldOf store])).run (besideWorld store) =
          (.ok (.success content mark), between) ∧
      Value.same content (.ofInt 1) = true ∧ (besideWorld store).Follows between ∧
      Runs (Action.machine (depth + 3)).call (worldOf store)
        (.bound (worldOf store) (.hostMethod ClassId.world "run_system_once_with")
          between.nextMark) between (Change.takeMark.apply between) := by
  obtain ⟨between, calls, grows⟩ := run_call_take (depth + 3) (worldOf store) stands takes does
  have onWorld : (besideWorld store).object? ((Change.allocate .plain []).apply store).cells.size =
      some (.world {}) := object?_allocate _ _ _
  have bare : between.ownAttribute? (worldOf store) "run_system_once_with" = none := by
    have own := attributesOf_allocate ((Change.allocate .plain []).apply store) ClassId.world
      (.world {}) []
    rw [Store.ownAttribute?, worldOf, grows.attributesOf_eq (lt_size_of_object? onWorld)]
    exact congrArg (Entries.get? · "run_system_once_with") own
  have intactToo := ((follows_besideWorld store).keeps.intact intact).of_grows grows
  exact ⟨_, _, between, calls, rfl, .of_grows grows,
    runs_of_world _ intactToo (grows.object? onWorld) bare⟩

/-- What is generated for `take` under the name that its record has by default. -/
def taken : Generation × Store := takeGeneration takeStore "TakeCommand"

/-- Applying the record of `take` and calling the routine both have the handler run with the one
that comes of it. -/
theorem outcome_reaches_its_handler_take :
    ∃ apply handler content between,
      (besideWorld taken.2).find taken.1.recordClass "apply" = some (.value apply) ∧
      (takePlan takeStore "TakeCommand").options.onSuccess = some handler ∧
      Value.same content (.ofInt 1) = true ∧
      ((Action.machine 5).call apply (.ofList
          [.object taken.1.recordClass taken.2.cells.size, worldOf taken.2])).run
            (besideWorld taken.2) =
        ((Action.machine 5).call taken.1.routine (.ofList [worldOf taken.2])).run
            (besideWorld taken.2) ∧
      ((Action.machine 5).call taken.1.routine (.ofList [worldOf taken.2])).run
            (besideWorld taken.2) =
        (((Action.machine 3).call (.bound (worldOf taken.2)
          (.hostMethod ClassId.world "run_system_once_with") between.nextMark)
            (.ofList [handler, content])).bind fun _ => done .absent).run
              (Change.takeMark.apply (Change.takeMark.apply between)) := by
  have facts : ((planFor (.object ClassId.function 1) [("ok", .object ClassId.function 2),
        ("struct_name", .ofText "TakeCommand")] false).run takeStore).1.isOk = true ∧
      Checked (takePlan takeStore "TakeCommand") ∧ Takes (takePlan takeStore "TakeCommand") ∧
      ((generate (Action.machine 20) (takePlan takeStore "TakeCommand")).run takeStore).1.isOk =
        true ∧
      (takePlan takeStore "TakeCommand").options.recordName ≠ "isinstance" ∧
      (takePlan takeStore "TakeCommand").options.extensionName ≠ "isinstance" := by decide +kernel
  obtain ⟨isPlanned, checked, takes, generates, unhidden⟩ := facts
  obtain ⟨sound, isBody⟩ := takePlan_sound ⟨isPlanned, checked⟩
  obtain ⟨function, isRoutine, functionTakes, functionDoes⟩ := takeStore_isRoutine
  have runs : (generate (Action.machine 20) (takePlan takeStore "TakeCommand")).run takeStore =
      (.ok taken.1, taken.2) := by
    unfold taken takeGeneration
    exact run_eq_answerOf generates
  obtain ⟨handler, isHandler⟩ := Option.isSome_iff_exists.mp takes.hasHandler
  obtain ⟨_, _, _, made⟩ := generate_eq_ok sound takeStore_intact (isBody ▸ isRoutine) runs
  obtain ⟨home, isHome, stood⟩ := isRoutine.isFunction
  obtain ⟨still, stands, stillTakes, stillDoes⟩ :=
    (made.follows.trans (follows_besideWorld taken.2)).keeps.functions home function stood
  obtain ⟨content, mark, between, calls, isOne, follows, asks⟩ := exists_outcome 0
    (made.follows.keeps.intact takeStore_intact) stands (stillTakes.trans functionTakes)
    (stillDoes.trans functionDoes)
  obtain ⟨apply, isApply, paths⟩ := outcome_reaches_its_handler 0
    (.mk sound takeStore_intact (isBody ▸ isRoutine) runs (follows_besideWorld taken.2)) takes.mode
    takes.isRouted unhidden (binds_besideWorld takes) (holds_besideWorld takes _)
  rw [meant_world takes] at paths
  obtain ⟨same, handles, -⟩ := paths (.success _)
    (by rw [takes.directArguments, isBody, isHome]; exact calls) follows asks
  rw [takes.applyArguments] at same
  exact ⟨apply, handler, content, between, isApply, isHandler, isOne, same, handles _ isHandler⟩

/-- Do something with a new world, and tell whether the world was marked. -/
def marks (path : Value → Action Value) : Action Bool := do
  let world ← (Action.machine 20).call (.ofClass ClassId.world) {}
  let _ ← path world
  hasAttribute (Action.machine 20).call world "taken"

/-- Make a record from what is declared, and apply it. -/
def makeAndApply (generation : Generation) (world : Value) : Action Value := do
  let call := (Action.machine 20).call
  let record ← call (.cls generation.recordClass) {}
  call (← getAttribute call record "apply") (.ofList [world])

def callRoutine (generation : Generation) (world : Value) : Action Value :=
  (Action.machine 20).call generation.routine (.ofList [world])

/-- The module in which `take` marks the world, and has a parameter that goes by the name under
which a class says how the attributes of its instances are read. -/
def hookedStore : Store :=
  takeModule
    [{ name := "__getattribute__", kind := .positional
       default := some (.object ClassId.function 3) }]
    (.sequence [.setAttribute (.variable "world") "taken" (.datum (.bool true)),
      .success (.datum (.int 1))])

def hooked : Generation × Store := takeGeneration hookedStore "TakeCommand"

/-- A record whose attributes are read by its own default is made and applied without the routine
being run; the public routine runs it. -/
theorem hooked_record_misses_routine :
    ((marks (makeAndApply hooked.1)).run hooked.2).1.isOk = true ∧
      (answerOf (marks (makeAndApply hooked.1)) hooked.2).1 = false ∧
      ((marks (callRoutine hooked.1)).run hooked.2).1.isOk = true ∧
      (answerOf (marks (callRoutine hooked.1)) hooked.2).1 = true := by
  decide +kernel

end Code

end Deferred
