import Deferred.Generation.Install
import Deferred.Proofs.Acceptance
import Deferred.Proofs.Uses

/-!
# What the host injects

A routine that the host runs takes from it what no field of the record holds: the input and what its
other annotations ask for.  Every annotation that is accepted for these roles asks for something
that the host knows how to give, so the host never refuses a parameter.  What it gives may still not
be there: a resource can be missing, and an annotation without its type names no resource and no
query at all.
-/

namespace Deferred

open Store Action Classification

/-! ## What annotations ask for -/

namespace Wanted

/-- What a parameter of a role asks the host for. -/
inductive Suits : Role → Wanted → Prop
  | input : Suits .pipedInput .input
  | commands : Suits .systemParam .commands
  | resource (type : Option Value) : Suits .systemParam (.resource type)
  | query (type : Option Value) : Suits .systemParam (.query type)

/-- Does a parameter ask for a resource or a query, without saying of what type? -/
def isBare : Wanted → Bool
  | .resource none => true
  | .query none => true
  | _ => false

variable {root : String} {forEntity : Bool} {parameter : Parameter} {role : Role}

/-- An annotation with the origin of a class is the class, or the class with arguments. -/
theorem of_origin_eq_cls {hint : Value} {id : ClassId} (same : hint.origin = .cls id)
    (apart : id ≠ ClassId.annotated) :
    hint = .cls id ∨ ∃ arguments mark, hint = .applied id arguments mark := by
  cases hint with
  | cls other => exact .inl same
  | applied other arguments mark =>
    obtain rfl := Value.cls.inj same
    exact .inr ⟨arguments, mark, rfl⟩
  | annotated inner notes => exact absurd (Value.cls.inj same).symm apart
  | _ => cases same

/-- The annotation of a parameter that the host is to fill asks for something that it gives. -/
theorem suits_ofHint {given : Option Value}
    (suits : Classification.Suits (Host.reference root) forEntity parameter role)
    (filled : role = .pipedInput ∨ role = .systemParam)
    (isHint : given.map Value.stripNotes = parameter.hint)
    (plain : ∀ arguments mark, parameter.hint ≠ some (.applied ClassId.commands arguments mark)) :
    Suits role (Wanted.ofHint given) := by
  have ofOrigin : ∀ id, id ≠ ClassId.annotated →
      denotes (.cls id) (parameter.hint.map Value.origin) = true →
        parameter.hint = some (.cls id) ∨
          ∃ arguments mark, parameter.hint = some (.applied id arguments mark) := by
    intro id apart denoted
    obtain ⟨hint, isHint, isOrigin⟩ := Option.map_eq_some_iff.mp (denotes_cls.mp denoted)
    rw [isHint]
    rcases of_origin_eq_cls isOrigin apart with rfl | ⟨arguments, mark, rfl⟩
    · exact .inl rfl
    · exact .inr ⟨arguments, mark, rfl⟩
  rw [Wanted.ofHint, isHint]
  rcases filled with rfl | rfl
  · rcases ofOrigin ClassId.input (by decide) suits with isInput | ⟨arguments, mark, isInput⟩ <;>
      rw [isInput] <;> exact .input
  · obtain ⟨-, -, isParam⟩ := suits
    obtain ⟨value, isOne, denoted⟩ := List.any_eq_true.mp isParam
    obtain ⟨id, isKnown, rfl⟩ := List.mem_map.mp isOne
    simp only [Host.referenceParams, List.mem_cons, List.not_mem_nil, or_false] at isKnown
    rcases isKnown with rfl | rfl | rfl | rfl
    · rcases ofOrigin ClassId.commands (by decide) denoted with isType | ⟨arguments, mark, isType⟩
      · rw [isType]
        exact .commands
      · exact absurd isType (plain arguments mark)
    · rcases ofOrigin ClassId.resource (by decide) denoted with isType | ⟨arguments, mark, isType⟩ <;>
        rw [isType] <;> exact .resource _
    · rcases ofOrigin ClassId.resourceMut (by decide) denoted with
        isType | ⟨arguments, mark, isType⟩ <;> rw [isType] <;> exact .resource _
    · rcases ofOrigin ClassId.query (by decide) denoted with isType | ⟨arguments, mark, isType⟩ <;>
        rw [isType] <;> exact .query _

end Wanted

namespace Action

variable {call : Caller} {world system : Value} {input : Option Value} {hints : Bindings}
  {sofar : Injection} {parameter : CallParameter} {parameters : List CallParameter}
  {before after : Store} {fault : Fault} {role : Role}

/-! ## What keeps the host from giving it -/

/-- What can stop the host while it gives a parameter what is wanted. -/
inductive Stops (call : Caller) (world : Value) (wanted : Wanted) : Fault → Prop
  /-- The annotation does not say of what type the resource or the query is. -/
  | bare (isBare : wanted.isBare = true) : Stops call world wanted .badIndex
  /-- The world gives no resource of that type, or the host fails to make what is wanted. -/
  | called {function : Value} {arguments : Arguments} {before after : Store} {fault : Fault}
      (fails : (call function arguments).run before = (.error fault, after)) :
    Stops call world wanted fault
  /-- The world has nothing to ask for resources. -/
  | unread {before after : Store} {fault : Fault}
      (fails : (getAttribute call world "resource").run before = (.error fault, after)) :
    Stops call world wanted fault

/-- A parameter that asks for something is given it, unless the type is left open or a call fails. -/
theorem inject_eq_error (suits : Wanted.Suits role (.ofHint (hints.lookup parameter.name)))
    (hasInput : role = .pipedInput → input.isSome)
    (fails : (inject call world system input hints sofar parameter).run before =
      (.error fault, after)) :
    Stops call world (.ofHint (hints.lookup parameter.name)) fault := by
  simp only [inject, bind_eq, run_store_bind] at fails
  generalize Wanted.ofHint (hints.lookup parameter.name) = wanted at suits fails
  cases suits with
  | input =>
    obtain ⟨value, isInput⟩ := Option.isSome_iff_exists.mp (hasInput rfl)
    rw [isInput] at fails
    cases fails
  | commands =>
    rcases run_bind_eq_error.mp fails with made | ⟨queue, _, -, fails⟩
    · exact .called made
    · rcases run_bind_eq_error.mp fails with made | ⟨handle, _, -, fails⟩
      · exact .called made
      · cases fails
  | resource type =>
    rcases run_bind_eq_error.mp fails with reads | ⟨resource, _, -, fails⟩
    · exact .unread reads
    · cases type with
      | none =>
        cases fails
        exact .bare rfl
      | some type =>
        rcases run_bind_eq_error.mp fails with gives | ⟨given, _, -, fails⟩
        · exact .called gives
        · cases fails
  | query type =>
    cases type with
    | none =>
      cases fails
      exact .bare rfl
    | some type =>
      rcases run_bind_eq_error.mp fails with made | ⟨query, _, -, fails⟩
      · exact .called made
      · cases fails

/-- The same for any number of parameters. -/
theorem injectAll_eq_error
    (each : ∀ parameter ∈ parameters, ∃ role,
      Wanted.Suits role (.ofHint (hints.lookup parameter.name)) ∧
        (role = .pipedInput → input.isSome))
    (fails : (injectAll call world system input hints sofar parameters).run before =
      (.error fault, after)) :
    ∃ parameter ∈ parameters,
      Stops call world (.ofHint (hints.lookup parameter.name)) fault := by
  induction parameters generalizing sofar before with
  | nil => cases fails
  | cons parameter rest ih =>
    rw [injectAll] at fails
    rcases run_bind_eq_error.mp fails with stops | ⟨given, _, -, later⟩
    · obtain ⟨role, suits, hasInput⟩ := each parameter List.mem_cons_self
      exact ⟨parameter, List.mem_cons_self, inject_eq_error suits hasInput stops⟩
    · obtain ⟨other, isLater, stops⟩ :=
        ih (fun other isIn => each other (List.mem_cons_of_mem _ isIn)) later
      exact ⟨other, List.mem_cons_of_mem _ isLater, stops⟩

/-! ## Accepted routines -/

/-- The host gives an accepted routine whatever it does not take from the record: it is stopped only
where an annotation leaves its type open, or where the world does not have what is wanted. -/
theorem injectAll_eq_error_of_accepted {plan : Plan} {root : String} (accepted : plan.Accepted)
    (isScheduled : plan.mode = .scheduled) (isHost : plan.host = Host.reference root)
    (plain : ∀ entry ∈ plan.classification.roles, ∀ arguments mark,
      entry.1.hint ≠ some (.applied ClassId.commands arguments mark))
    (takes : ∀ parameter ∈ parameters, ∃ entry ∈ plan.classification.roles,
      entry.2.isBoundByName = false ∧
        (hints.lookup parameter.name).map Value.stripNotes = entry.1.hint)
    (hasInput : plan.classification.piped.isSome → input.isSome)
    (fails : (injectAll call world system input hints sofar parameters).run before =
      (.error fault, after)) :
    ∃ parameter ∈ parameters,
      Stops call world (.ofHint (hints.lookup parameter.name)) fault := by
  refine injectAll_eq_error (fun parameter isOne => ?_) fails
  obtain ⟨⟨declared, role⟩, isRole, unbound, isHint⟩ := takes parameter isOne
  have suits := accepted.sorts.suits declared role isRole
  rw [isHost] at suits
  have filled : role = .pipedInput ∨ role = .systemParam := by
    cases role with
    | context =>
      have isContext := (accepted.sorts.context declared).mp isRole
      rw [(accepted.scheduled isScheduled).1] at isContext
      cases isContext
    | pipedInput => exact .inl rfl
    | systemParam => exact .inr rfl
    | entity => cases unbound
    | capturedField => cases unbound
  refine ⟨role, Wanted.suits_ofHint suits filled isHint (plain _ isRole), ?_⟩
  rintro rfl
  obtain ⟨piped, isPiped, -⟩ := (accepted.sorts.piped declared).mp isRole
  exact hasInput (by rw [isPiped]; rfl)

/-! ## A query of nothing -/

/-- A module with a routine `look` that takes a query, without saying of what. -/
def lookStore : Store where
  modules := { made := [("game_mod", [])], listed := ["game_mod"] }
  cells := #[
    { object := .dict [(.ofText "found", .ofText "Query")] },
    { object := .function
        { name := "look", qualname := "look", home := .ofText "game_mod", doc := .absent
          parameters := [.plain "found"]
          annotations := .object ClassId.dict 0
          body := .inert
          names := [("Query", .cls ClassId.query)] } }]

/-- Generate the command of the routine and make a record of it. -/
def makeLook : Action Value := do
  let generation ← generate (Action.machine 20) (← planFor (.object ClassId.function 1) [] false)
  (Action.machine 20).call (.cls generation.recordClass) {}

/-- Apply the record to a world. -/
def applyLook : Action Value := do
  let record ← makeLook
  let world ← (Action.machine 20).call (.ofClass ClassId.world) {}
  (Action.machine 20).call (← getAttribute (Action.machine 20).call record "apply")
    (.ofList [world])

/-- The routine is accepted, but its record cannot be applied. -/
theorem bare_query_is_refused :
    (makeLook.run lookStore).1.isOk = true ∧ kindOf? applyLook lookStore = some "IndexError" := by
  decide +kernel

end Action

end Deferred
