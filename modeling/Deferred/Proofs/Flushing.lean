import Deferred.Proofs.Handles

/-!
# Applying what a routine has recorded

When a routine that the host runs has come to its end, the handles that it was given are applied one
after the other, each one once.  Nothing that was recorded is lost, doubled or started out of order,
and nothing waits in a queue right after its own handle was applied.  But a command may record
through a handle whose turn is over: what it leaves there is still there when the run has ended.  So
the run starts everything that was recorded through the handle that is applied last, hence through
the only one of a routine that has a single handle, and this much cannot be said of the others.
-/

namespace Deferred.Action

open Store

variable {call : Caller} {bound : Nat} {world system answer : Value} {input : Option Value}
  {before called after : Store} {handle queue : Ref} {handles earlier later : List Value}

/-- Of what changes record in an empty queue they leave something, having started the rest in order,
unless they take the queue back to its start. -/
def Leaves (queue : Ref) (start : Store) (changes : List Change) (left : List Value) : Prop :=
  .reset queue ∉ changes → pushes queue changes = starts queue start changes ++ left

/-- Apply the handles that a routine was given, one after the other. -/
def applyAll (call : Caller) (world : Value) (handles : List Value) : Action Unit :=
  forEach handles fun handle =>
    (send call handle "apply" (.ofList [world])).bind fun _ => done ()

/-- What is left to do once the arguments of a routine are there. -/
def runWith (call : Caller) (world system : Value) (injection : Injection) : Action Value :=
  (call system { positional := injection.positional, keywords := injection.keywords }).bind
    fun answer => (applyAll call world injection.handles).bind fun _ => done answer

theorem run_ofExcept_eq_ok {α : Type} {outcome : Except Fault α} {value : α} :
    (ofExcept outcome).run before = (.ok value, after) ↔ outcome = .ok value ∧ before = after := by
  cases outcome <;> simp [ofExcept]

/-- A routine is run with what its parameters ask for. -/
theorem exists_runWith
    (runs : (runSystem call world system input).run before = (.ok answer, after)) :
    ∃ hints parameters injection given,
      before.hintsOf (before.behindPartials before.cells.size system) = .ok hints ∧
        before.parameters system = .ok parameters ∧
        (injectAll call world system input hints {}
          (parameters.filter fun parameter =>
            ((before.boundKeywords system).lookup parameter.name).isNone)).run before =
          (.ok injection, given) ∧
        (runWith call world system injection).run given = (.ok answer, after) := by
  simp only [runSystem, bind_eq, run_store_bind] at runs
  obtain ⟨hints, _, resolves, signed⟩ := run_bind_eq_ok.mp runs
  obtain ⟨parameters, _, reads, injected⟩ := run_bind_eq_ok.mp signed
  obtain ⟨injection, given, injects, goesOn⟩ := run_bind_eq_ok.mp injected
  obtain ⟨isHints, rfl⟩ := run_ofExcept_eq_ok.mp resolves
  obtain ⟨isParameters, rfl⟩ := run_ofExcept_eq_ok.mp reads
  exact ⟨hints, parameters, injection, given, isHints, isParameters, injects, goesOn⟩

/-- Applying handles, cut at one of them. -/
theorem run_applyAll_append (runs : (applyAll call world
      (earlier ++ .object ClassId.commands handle :: later)).run called = (.ok (), after)) :
    ∃ turn done reply, (applyAll call world earlier).run called = (.ok (), turn) ∧
      (send call (.object ClassId.commands handle) "apply" (.ofList [world])).run turn =
        (.ok reply, done) ∧
      (applyAll call world later).run done = (.ok (), after) := by
  obtain ⟨turn, first, rest⟩ := forEach_append_eq_ok.mp runs
  obtain ⟨done, applies, others⟩ := forEach_cons_eq_ok.mp rest
  obtain ⟨reply, _, applies, ends⟩ := run_bind_eq_ok.mp applies
  cases ends
  exact ⟨turn, done, reply, first, applies, others⟩

/-- What waits in the queue of a handle when all handles were applied: nothing but what was recorded
after its own turn, and of this what was not started either. -/
theorem exists_left_of_applyAll
    (runs : (applyAll (Action.machine bound).call world
      (earlier ++ .object ClassId.commands handle :: later)).run called = (.ok (), after)) :
    ∃ turn done, (applyAll (Action.machine bound).call world earlier).run called = (.ok (), turn) ∧
      (applyAll (Action.machine bound).call world later).run done = (.ok (), after) ∧
      (turn.Intact → turn.Records handle queue →
        done.waiting? queue = some [] ∧
          ∃ left, after.waiting? queue = some left ∧
            Leaves queue done ((applyAll (Action.machine bound).call world later).changes done)
              left) := by
  obtain ⟨turn, done, reply, first, applies, others⟩ := run_applyAll_append runs
  refine ⟨turn, done, first, others, fun intact records => ?_⟩
  have empty := waiting?_of_run_apply intact records applies
  exact ⟨empty, exists_left_of_run empty others⟩

/-! ## A whole run -/

/-- From the moment at which the arguments of a routine are there, whatever is recorded through a
handle is started, in order, except for what is left in the end.  What is left was recorded after the
turn of the handle, so nothing is left where no other handle comes after it. -/
theorem exists_left_of_runWith {injection : Injection} {given : Store}
    (runs : (runWith (Action.machine bound).call world system injection).run given =
      (.ok answer, after))
    (isOne : injection.handles = earlier ++ .object ClassId.commands handle :: later)
    (empty : given.waiting? queue = some []) :
    ∃ called turn done left,
      ((Action.machine bound).call system
        { positional := injection.positional, keywords := injection.keywords }).run given =
          (.ok answer, called) ∧
      (applyAll (Action.machine bound).call world earlier).run called = (.ok (), turn) ∧
      (applyAll (Action.machine bound).call world later).run done = (.ok (), after) ∧
      after.waiting? queue = some left ∧
      Leaves queue given
        ((runWith (Action.machine bound).call world system injection).changes given) left ∧
      (turn.Intact → turn.Records handle queue →
        Leaves queue done ((applyAll (Action.machine bound).call world later).changes done) left ∧
          (later = [] → left = [])) := by
  obtain ⟨left, waitsLeft, kept⟩ := exists_left_of_run empty runs
  obtain ⟨reply, called, calls, applied⟩ := run_bind_eq_ok.mp runs
  obtain ⟨_, _, flushes, ends⟩ := run_bind_eq_ok.mp applied
  cases ends
  rw [isOne] at flushes
  obtain ⟨turn, done, first, others, settles⟩ := exists_left_of_applyAll flushes
  refine ⟨called, turn, done, left, calls, first, others, waitsLeft, kept,
    fun intact records => ?_⟩
  obtain ⟨emptied, leftLate, waitsLate, keptLate⟩ := settles intact records
  obtain rfl := Option.some.inj (waitsLate.symm.trans waitsLeft)
  refine ⟨keptLate, ?_⟩
  rintro rfl
  cases others
  exact Option.some.inj (waitsLeft.symm.trans emptied)

/-- Whatever is recorded through the only handle of a routine is started before the run ends, in
order, if the handle still records in the queue that it was made with when the routine has ended. -/
theorem starts_all_of_only_handle {injection : Injection} {given : Store}
    (runs : (runWith (Action.machine bound).call world system injection).run given =
      (.ok answer, after))
    (isOnly : injection.handles = [.object ClassId.commands handle])
    (empty : given.waiting? queue = some []) :
    ∃ called, ((Action.machine bound).call system
        { positional := injection.positional, keywords := injection.keywords }).run given =
          (.ok answer, called) ∧
      (called.Intact → called.Records handle queue → after.waiting? queue = some [] ∧
        Leaves queue given
          ((runWith (Action.machine bound).call world system injection).changes given) []) := by
  obtain ⟨called, turn, done, left, calls, first, -, waitsLeft, kept, settles⟩ :=
    @exists_left_of_runWith _ _ _ _ _ _ queue [] [] _ _ runs isOnly empty
  cases first
  refine ⟨called, calls, fun intact records => ?_⟩
  obtain rfl := (settles intact records).2 rfl
  exact ⟨waitsLeft, kept⟩

/-- A module with a routine that takes two handles and records through the second one a command that
records through the first one. -/
def crossingStore : Store where
  modules := { made := [("game_mod", [])], listed := ["game_mod"] }
  cells := #[
    { object := .dict [(.ofText "first", .ofText "Commands"),
        (.ofText "second", .ofText "Commands")] },
    { object := .scope "game_mod" [] },
    { object := .function
        { name := "route", qualname := "route", home := .ofText "game_mod", doc := .absent
          parameters := [.plain "first", .plain "second"]
          annotations := .object ClassId.dict 0
          body := .script (.send (.variable "second") "add" [.closure ["world"]
            (.send (.variable "first") "add" [.closure ["world"] (.datum .absent)] [])] []) 1
          names := [("Commands", .cls ClassId.commands)] } }]

/-- Run the routine on a new world. -/
def runCrossing : Action Value := do
  let world ← (Action.machine 20).call (.ofClass ClassId.world) {}
  runSystem (Action.machine 20).call world (.object ClassId.function 2) none

/-- The run succeeds, the second queue is empty, and in the first one a command is left. -/
theorem crossing_leaves_a_command :
    (runCrossing.run crossingStore).1.isOk = true ∧
      let waiting := fun queue =>
        (((runCrossing.run crossingStore).2.waiting? queue).map List.length)
      waiting 4 = some 1 ∧ waiting 6 = some 0 := by
  decide +kernel

/-! ## What the handles are -/

/-- A handle that was made for a routine, with a queue in which nothing waits. -/
def IsFresh (store : Store) (world value : Value) : Prop :=
  ∃ handle queue, value = .object ClassId.commands handle ∧ store.Records handle queue ∧
    store.waiting? queue = some [] ∧
    store.attributesOf (.object ClassId.commands handle) = handleParts queue world

theorem IsFresh.of_grows {value : Value} (fresh : IsFresh before world value)
    (grows : before.Grows after) : IsFresh after world value := by
  obtain ⟨handle, queue, rfl, records, waits, parts⟩ := fresh
  exact ⟨handle, queue, rfl, records.of_grows grows,
    waiting?_eq_some.mpr (grows.object? (waiting?_eq_some.mp waits)),
    (grows.attributesOf_eq (lt_size_of_object? records.plain)).trans parts⟩

end Deferred.Action
