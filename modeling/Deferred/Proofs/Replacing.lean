import Deferred.Proofs.Decorating

/-!
# Methods that replace one another

A method may be generated again under a name that is in use, with other keywords and of another
routine.  After any number of decorations, the type that queues commands has the method of the last
of them that made an extension, and the type that applies commands at once has that of the last one
that did not leave it out.  So the two are in step unless the last one left out the direct type; then
the direct type still has the method of an earlier one.
-/

namespace Deferred

open Store Action

/-! ## Histories -/

/-- A decoration with what came of it. -/
structure Run where
  decoration : Decoration
  outcome : Except Fault Generation

namespace Run

/-- Did a run succeed and make an extension of a flavour, with a method of a name? -/
def extends? (run : Run) (forEntity : Bool) (method : String) : Bool :=
  run.decoration.forEntity == forEntity && !Options.isOn run.decoration.keywords "no_trait" &&
    match run.outcome with
    | .ok generation => generation.method == method
    | .error _ => false

/-- Was a run meant for the type that applies commands at once, too? -/
def isDirect (run : Run) : Bool := !Options.isOn run.decoration.keywords "no_world"

/-- The method that a run left. -/
def method? (run : Run) : Option Value :=
  match run.outcome with
  | .ok generation => generation.extensionMethod
  | .error _ => none

/-- What stands on a type under a name after some runs, of which one is the last that put something
there. -/
def standing (first : Store) (id : ClassId) (method : String) : Option Run → Option Value
  | some run => run.method?
  | none => first.classAttribute? id method

end Run

variable {host : Host} {types : HostTypes host} {first before after last : Store} {runs : List Run}

/-- Decorations against one host, the last one first, and the store that they leave.  Between them
other things may happen that leave the host types alone. -/
inductive History (types : HostTypes host) (first : Store) : List Run → Store → Prop where
  | start : History types first [] first
  | meanwhile {runs : List Run} {before after : Store} (sofar : History types first runs before)
      (rests : types.Rest before after) : History types first runs after
  | another {runs : List Run} {before after : Store} {decoration : Decoration}
      {outcome : Except Fault Generation} (sofar : History types first runs before)
      (regular : decoration.Regular types before)
      (comes : decoration.run.run before = (outcome, after)) :
    History types first (⟨decoration, outcome⟩ :: runs) after

namespace History

/-- On a host type stands the method of the last run that put one there. -/
theorem stands {id : ClassId} {method : String} {puts : Run → Bool} (isType : id ∈ types.all)
    (fails : ∀ decoration fault, puts ⟨decoration, .error fault⟩ = false)
    (succeeds : ∀ decoration generation, puts ⟨decoration, .ok generation⟩ = true ↔
      method = generation.method ∧ id ∈ decoration.serves types)
    (history : History types first runs last) :
    last.classAttribute? id method = Run.standing first id method (runs.find? puts) := by
  induction history with
  | start => rfl
  | meanwhile sofar rests ih => rw [rests id isType method, ih]
  | @another runs before after decoration outcome sofar regular comes ih =>
    have left := decoration.leaves regular comes
    cases outcome with
    | error fault =>
      rw [List.find?_cons_of_neg (by simp [fails]), ← ih]
      exact left id isType method
    | ok generation =>
      have takes := left.1 id isType method
      by_cases isPut : puts ⟨decoration, .ok generation⟩ = true
      · rw [List.find?_cons_of_pos isPut, takes, if_pos ((succeeds _ _).mp isPut)]
        rfl
      · rw [List.find?_cons_of_neg isPut, ← ih, takes, if_neg fun both =>
          isPut ((succeeds _ _).mpr both)]

/-- A run that made an extension left a method. -/
theorem isSome_method? {forEntity : Bool} {method : String} (history : History types first runs last)
    {run : Run} (isOne : run ∈ runs) (extended : run.extends? forEntity method = true) :
    run.method?.isSome := by
  induction history with
  | start => cases isOne
  | meanwhile sofar rests ih => exact ih isOne
  | @another runs before after decoration outcome sofar regular comes ih =>
    rcases List.mem_cons.mp isOne with rfl | isEarlier
    · cases outcome with
      | error fault => simp [Run.extends?] at extended
      | ok generation =>
        simp only [Run.extends?, Bool.and_eq_true, Bool.not_eq_true'] at extended
        exact (decoration.leaves regular comes).2 extended.1.2
    · exact ih isEarlier

/-- After any history the queued type has the method of the last run of its flavour that made an
extension with a method of that name, and the direct type that of the last such run that did not
leave it out; where there was no such run, they have what they had.  So both have the same method,
that of the last run, unless it left out the direct type. -/
theorem methods_in_step (history : History types first runs last) (forEntity : Bool)
    (method : String) :
    last.classAttribute? (types.queued forEntity) method =
        Run.standing first (types.queued forEntity) method
          (runs.find? (·.extends? forEntity method)) ∧
      last.classAttribute? (types.direct forEntity) method =
        Run.standing first (types.direct forEntity) method
          (runs.find? fun run => run.extends? forEntity method && run.isDirect) ∧
      ∀ run, runs.find? (·.extends? forEntity method) = some run → run.isDirect = true →
        ∃ value, run.method? = some value ∧
          last.classAttribute? (types.queued forEntity) method = some value ∧
          last.classAttribute? (types.direct forEntity) method = some value := by
  have onQueued : last.classAttribute? (types.queued forEntity) method =
      Run.standing first (types.queued forEntity) method
        (runs.find? (·.extends? forEntity method)) := by
    refine history.stands (types.queued_mem_all forEntity) (by simp [Run.extends?]) ?_
    intro decoration generation
    rw [Decoration.serves, types.queued_mem_served]
    simp only [Run.extends?, Bool.and_eq_true, Bool.not_eq_true', beq_iff_eq]
    tauto
  have onDirect : last.classAttribute? (types.direct forEntity) method =
      Run.standing first (types.direct forEntity) method
        (runs.find? fun run => run.extends? forEntity method && run.isDirect) := by
    refine history.stands (types.direct_mem_all forEntity) (by simp [Run.extends?]) ?_
    intro decoration generation
    rw [Decoration.serves, types.direct_mem_served]
    simp only [Run.extends?, Run.isDirect, Bool.and_eq_true, Bool.not_eq_true', beq_iff_eq]
    tauto
  refine ⟨onQueued, onDirect, fun run isLast isDirect => ?_⟩
  obtain ⟨extended, later, earlier, splits, others⟩ := List.find?_eq_some_iff_append.mp isLast
  obtain ⟨value, isMethod⟩ := Option.isSome_iff_exists.mp
    (history.isSome_method? (List.mem_of_find?_eq_some isLast) extended)
  -- The last run that made an extension is the last one that did not leave out the direct type.
  have isLastDirect : (runs.find? fun run => run.extends? forEntity method && run.isDirect) =
      some run := by
    refine List.find?_eq_some_iff_append.mpr ⟨by simp [extended, isDirect], later, earlier, splits,
      fun other isLater => ?_⟩
    have notExtended := others other isLater
    simp_all
  refine ⟨value, isMethod, ?_, ?_⟩
  · rw [onQueued, isLast]
    exact isMethod
  · rw [onDirect, isLastDirect]
    exact isMethod

/-! ## A method that is generated twice -/

/-- A routine `pay` that takes the world. -/
def payRoutine : Object :=
  .function
    { name := "pay", qualname := "pay", home := .ofText "game_mod", doc := .absent
      parameters := [.plain "world"]
      annotations := .object ClassId.dict 0
      body := .inert
      names := [("World", .cls ClassId.world)] }

/-- A module in which the routine was defined twice. -/
def twicePay : Store where
  modules := { made := [("game_mod", [])], listed := ["game_mod"] }
  cells := #[
    { object := .dict [(.ofText "world", .ofText "World")] },
    { object := payRoutine },
    { object := payRoutine }]

/-- A decoration of the first of these routines, and what comes of it. -/
def firstPay : Decoration := ⟨20, .object ClassId.function 1, [], false⟩

def afterFirst : Store := (firstPay.run.run twicePay).2

/-- A decoration of the second one. -/
def secondPay (keywords : Options.Raw) : Decoration :=
  ⟨20, .object ClassId.function 2, keywords, false⟩

def afterSecond (keywords : Options.Raw) : Store := ((secondPay keywords).run.run afterFirst).2

/-- The second decoration with what comes of it. -/
def secondRun (keywords : Options.Raw) : Run :=
  ⟨secondPay keywords, ((secondPay keywords).run.run afterFirst).1⟩

/-- Both decorations are regular, and the second one makes an extension whether or not it leaves out
the direct type; where it does, the two types have generated methods that differ. -/
theorem secondPay_says :
    (twicePay.isIntact = true ∧ afterFirst.isIntact = true ∧
      Decoration.isRegular "commandify.prelude" firstPay twicePay = true ∧
      Decoration.isRegular "commandify.prelude" (secondPay []) afterFirst = true ∧
      (secondRun []).extends? false "pay" = true) ∧
    (secondRun [("no_world", .bool true)]).extends? false "pay" = true ∧
      ((afterSecond [("no_world", .bool true)]).classAttribute? ClassId.commands "pay").any
        (fun queued =>
          ((afterSecond [("no_world", .bool true)]).classAttribute? ClassId.world "pay").any
            fun direct =>
              (afterSecond [("no_world", .bool true)]).answers queued extensionMark &&
              (afterSecond [("no_world", .bool true)]).answers direct extensionMark &&
              (secondRun [("no_world", .bool true)]).method?.any (Value.same queued) &&
              !Value.same queued direct) = true := by
  decide +kernel

/-- The second method replaces the first one on both types. -/
theorem methods_in_step_pay :
    ∃ value, (secondRun []).method? = some value ∧
      (afterSecond []).classAttribute? ClassId.commands "pay" = some value ∧
      (afterSecond []).classAttribute? ClassId.world "pay" = some value := by
  obtain ⟨⟨intact, intactAfter, regular, regularAfter, extended⟩, -⟩ := secondPay_says
  have history : History (HostTypes.reference "commandify.prelude") twicePay
      [secondRun [], ⟨firstPay, (firstPay.run.run twicePay).1⟩] (afterSecond []) :=
    .another (.another .start
      (Decoration.regular_of_isRegular (intact_of_isIntact intact) regular) rfl)
      (Decoration.regular_of_isRegular (intact_of_isIntact intactAfter) regularAfter) rfl
  exact (history.methods_in_step false "pay").2.2 (secondRun [])
    (List.find?_cons_of_pos extended) rfl

/-- Where the second decoration leaves out the direct type, both types have a generated method, but
only the queued one has that of the second. -/
theorem direct_method_is_stale :
    (secondRun [("no_world", .bool true)]).extends? false "pay" = true ∧
      ∃ queued direct,
        (afterSecond [("no_world", .bool true)]).classAttribute? ClassId.commands "pay" =
          some queued ∧
        (afterSecond [("no_world", .bool true)]).classAttribute? ClassId.world "pay" =
          some direct ∧
        (afterSecond [("no_world", .bool true)]).answers queued extensionMark = true ∧
        (afterSecond [("no_world", .bool true)]).answers direct extensionMark = true ∧
        (secondRun [("no_world", .bool true)]).method?.any (Value.same queued) = true ∧
        Value.same queued direct = false := by
  obtain ⟨-, extended, found⟩ := secondPay_says
  obtain ⟨queued, isQueued, found⟩ := (Option.any_eq_true _ _).mp found
  obtain ⟨direct, isDirect, found⟩ := (Option.any_eq_true _ _).mp found
  simp only [Bool.and_eq_true, Bool.not_eq_true'] at found
  obtain ⟨⟨⟨marked, markedToo⟩, isLast⟩, differ⟩ := found
  exact ⟨extended, queued, direct, isQueued, isDirect, marked, markedToo, isLast, differ⟩

end History

end Deferred
