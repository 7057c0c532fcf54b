import Deferred.Call.HostMethod
import Deferred.Proofs.Changes

/-!
# The queue of commands

Commands are put at the end of a queue and leave it at its front, and a command that left it is
started at once.  What a queue holds is therefore settled by its history: what waited at first and
was pushed since is what was started since, followed by what still waits.  This is kept by every
single change, so it holds at every moment of every run, whatever the commands do: they may push to
the queue they came from, apply it themselves, or fail.
-/

namespace Deferred

/-- The commands that wait in an object, if it is a queue. -/
def Object.waiting? : Object → Option (List Value)
  | .queue pending => some pending
  | _ => none

/-- The commands that wait in the queue at a place. -/
def Store.waiting? (store : Store) (queue : Ref) : Option (List Value) :=
  (store.object? queue).bind Object.waiting?

namespace Change

/-- The command that a change puts into a queue. -/
def pushed (queue : Ref) : Change → List Value
  | push target command => if target = queue then [command] else []
  | _ => []

/-- The command that a change takes out of a queue in which some wait, which starts it. -/
def started (queue : Ref) (waiting : List Value) : Change → List Value
  | pop target => if target = queue then waiting.take 1 else []
  | _ => []

@[simp] theorem pushed_push (queue target : Ref) (command : Value) :
    (push target command).pushed queue = if target = queue then [command] else [] := rfl

@[simp] theorem pushed_pop (queue target : Ref) : (pop target).pushed queue = [] := rfl

@[simp] theorem started_push (queue target : Ref) (waiting : List Value) (command : Value) :
    (push target command).started queue waiting = [] := rfl

@[simp] theorem started_pop (queue target : Ref) (waiting : List Value) :
    (pop target).started queue waiting = if target = queue then waiting.take 1 else [] := rfl

end Change

/-- The commands that changes put into a queue, in order. -/
def pushes (queue : Ref) (changes : List Change) : List Value :=
  changes.flatMap (Change.pushed queue)

/-- The commands that changes take out of a queue to start them, in order. -/
def starts (queue : Ref) : Store → List Change → List Value
  | _, [] => []
  | store, change :: rest =>
    change.started queue ((store.waiting? queue).getD []) ++
      starts queue (change.apply store) rest

@[simp] theorem pushes_nil (queue : Ref) : pushes queue [] = [] := rfl

@[simp] theorem pushes_cons (queue : Ref) (change : Change) (rest : List Change) :
    pushes queue (change :: rest) = change.pushed queue ++ pushes queue rest := rfl

@[simp] theorem starts_nil (queue : Ref) (store : Store) : starts queue store [] = [] := rfl

@[simp] theorem starts_cons (queue : Ref) (store : Store) (change : Change)
    (rest : List Change) :
    starts queue store (change :: rest) =
      change.started queue ((store.waiting? queue).getD []) ++
        starts queue (change.apply store) rest := rfl

/-! ## What a change does to a queue -/

namespace Store

variable {store : Store} {queue : Ref} {pending : List Value}

theorem waiting?_eq_some :
    store.waiting? queue = some pending ↔ store.object? queue = some (.queue pending) := by
  rw [waiting?, Option.bind_eq_some_iff]
  constructor
  · rintro ⟨found, isFound, isQueue⟩
    cases found with
    | queue content =>
      obtain rfl : content = pending := Option.some.inj isQueue
      exact isFound
    | _ => cases isQueue
  · exact fun isFound => ⟨_, isFound, rfl⟩

/-- A change of an object that leaves queues alone leaves what waits in them. -/
theorem waiting?_modifyObject {place : Ref} {change : Object → Object}
    (kept : ∀ object, (change object).waiting? = object.waiting?) :
    (store.modifyObject place change).waiting? queue = store.waiting? queue := by
  rw [waiting?, waiting?]
  by_cases same : queue = place
  · rw [same, object?_modifyObject]
    cases store.object? place with
    | none => rfl
    | some object => exact kept object
  · rw [object?_modifyObject_of_ne change same]

theorem waiting?_modifyWorld {place : Ref} {change : World → World} :
    (store.modifyWorld place change).waiting? queue = store.waiting? queue :=
  waiting?_modifyObject fun object => by cases object <;> rfl

/-- A change of a queue is seen in this queue only. -/
theorem waiting?_modifyQueue (store : Store) (place queue : Ref)
    (change : List Value → List Value) :
    (store.modifyQueue place change).waiting? queue =
      if place = queue then (store.waiting? queue).map change else store.waiting? queue := by
  rw [modifyQueue, waiting?]
  by_cases same : place = queue
  · rw [if_pos same, same, object?_modifyObject, waiting?]
    cases store.object? queue with
    | none => rfl
    | some object => cases object <;> rfl
  · rw [if_neg same, object?_modifyObject_of_ne _ (Ne.symm same), waiting?]

theorem waiting?_of_object?_eq {before after : Store}
    (same : after.object? queue = before.object? queue) :
    after.waiting? queue = before.waiting? queue := by
  rw [waiting?, waiting?, same]

/-- A new object does not stand where a queue stands. -/
theorem waiting?_allocate {object : Object} {attributes : Bindings}
    (waits : store.waiting? queue = some pending) :
    ((Change.allocate object attributes).apply store).waiting? queue = some pending := by
  obtain ⟨cell, isCell, -⟩ := Option.map_eq_some_iff.mp (waiting?_eq_some.mp waits)
  have isOld : queue < store.cells.size := (Array.getElem?_eq_some_iff.mp isCell).1
  rw [← waits]
  apply waiting?_of_object?_eq
  rw [object?, object?, cell?, cell?, Change.apply, Array.getElem?_push_lt isOld,
    ← Array.getElem?_eq_getElem isOld]

/-- Where a queue is untouched, what waited still waits. -/
theorem waiting?_of_untouched {after : Store} (waits : store.waiting? queue = some pending)
    (same : after.waiting? queue = store.waiting? queue) :
    ∃ now, after.waiting? queue = some now ∧ pending ++ [] = [] ++ now :=
  ⟨pending, by rw [same, waits], by rw [List.append_nil, List.nil_append]⟩

/-- What one change keeps: what waited and is pushed is what is started and what waits then. -/
theorem waiting?_apply {change : Change} (waits : store.waiting? queue = some pending)
    (keeps : change ≠ .reset queue) :
    ∃ now, (change.apply store).waiting? queue = some now ∧
      pending ++ change.pushed queue = change.started queue pending ++ now := by
  cases change with
  | push target command =>
    simp only [Change.apply, waiting?_modifyQueue, Change.pushed_push, Change.started_push]
    by_cases same : target = queue
    · exact ⟨pending ++ [command], by simp [same, waits], by simp [same]⟩
    · exact ⟨pending, by simp [same, waits], by simp [same]⟩
  | pop target =>
    simp only [Change.apply, waiting?_modifyQueue, Change.pushed_pop, Change.started_pop]
    by_cases same : target = queue
    · refine ⟨pending.drop 1, by simp [same, waits], ?_⟩
      rw [if_pos same, List.append_nil, List.take_append_drop]
    · exact ⟨pending, by simp [same, waits], by simp [same]⟩
  | reset target =>
    have apart : queue ≠ target := fun same => keeps (same ▸ rfl)
    apply waiting?_of_untouched waits
    rw [Change.apply, waiting?, object?_modifyObject_of_ne _ apart, waiting?]
  | allocate object attributes => exact ⟨pending, waiting?_allocate waits, List.append_nil _⟩
  | setAttribute | removeAttribute =>
    exact waiting?_of_untouched waits
      (waiting?_of_object?_eq (object?_modifyCell_of_kept fun _ => rfl))
  | setItems | setEntries | setSlots | setOctets | setVariable | setName | setFunction | advance =>
    exact waiting?_of_untouched waits
      (waiting?_modifyObject fun object => by cases object <;> rfl)
  | reserve | despawn | insert | insertResource | removeResource =>
    exact waiting?_of_untouched waits waiting?_modifyWorld
  | takeMark | setClassAttribute | removeClassAttribute | declareClass | makeModule | setGlobal
  | log | print | notice => exact waiting?_of_untouched waits rfl

/-- A queue stays a queue, also where it is taken back to its start. -/
theorem exists_waiting?_apply (change : Change) (waits : store.waiting? queue = some pending) :
    ∃ now, (change.apply store).waiting? queue = some now := by
  by_cases resets : change = .reset queue
  · refine ⟨[], ?_⟩
    rw [resets, Change.apply, waiting?, object?_modifyObject, waiting?_eq_some.mp waits]
    rfl
  · obtain ⟨now, waitsNow, -⟩ := waiting?_apply waits resets
    exact ⟨now, waitsNow⟩

theorem exists_waiting?_replay (changes : List Change)
    (waits : store.waiting? queue = some pending) :
    ∃ now, (store.replay changes).waiting? queue = some now := by
  induction changes generalizing store pending with
  | nil => exact ⟨pending, waits⟩
  | cons change rest ih =>
    obtain ⟨now, waitsNow⟩ := exists_waiting?_apply change waits
    exact ih waitsNow

/-- What a history keeps: what waited and was pushed is what was started and what waits then. -/
theorem waiting?_replay {changes : List Change} (waits : store.waiting? queue = some pending)
    (keeps : .reset queue ∉ changes) :
    ∃ now, (store.replay changes).waiting? queue = some now ∧
      pending ++ pushes queue changes = starts queue store changes ++ now := by
  induction changes generalizing store pending with
  | nil => exact ⟨pending, waits, by simp⟩
  | cons change rest ih =>
    have keepsFirst : change ≠ .reset queue := fun same => keeps (same ▸ List.mem_cons_self)
    have keepsRest : .reset queue ∉ rest := fun isIn => keeps (List.mem_cons_of_mem change isIn)
    obtain ⟨between, waitsBetween, first⟩ := waiting?_apply waits keepsFirst
    obtain ⟨now, waitsNow, others⟩ := ih waitsBetween keepsRest
    refine ⟨now, waitsNow, ?_⟩
    calc pending ++ pushes queue (change :: rest)
        = (pending ++ change.pushed queue) ++ pushes queue rest := by
          rw [pushes_cons, List.append_assoc]
      _ = change.started queue pending ++ (between ++ pushes queue rest) := by
          rw [first, List.append_assoc]
      _ = (change.started queue pending ++ starts queue (change.apply store) rest) ++ now := by
          rw [others, List.append_assoc]
      _ = starts queue store (change :: rest) ++ now := by
          rw [starts_cons, waits, Option.getD_some]

end Store

/-! ## Applying a queue -/

namespace Action

variable {call : Caller} {id : ClassId} {queue : Ref} {world : Value}
variable {before after : Store} {pending : List Value}

theorem run_queueAt (waits : before.waiting? queue = some pending) :
    (queueAt (.object id queue)).run before = (.ok (queue, pending), before) := by
  simp [queueAt, Action.store, Store.pendingOf?, Store.objectOf?, Store.waiting?_eq_some.mp waits]

theorem changes_queueAt (value : Value) (before : Store) :
    (queueAt value).changes before = [] := by
  simp only [queueAt, Action.store, bind_eq, read_bind, done_bind, changes_read]
  split <;> rfl

/-- An empty queue is left as it is. -/
theorem run_drain_nil (waits : before.waiting? queue = some []) (bound : Nat) :
    (drain call (.object id queue) world (bound + 1)).run before = (.ok (), before) := by
  rw [drain, bind_eq, run_bind_of_ok (run_queueAt waits)]
  rfl

/-- The first command of a queue is taken out and started, then the queue is applied further. -/
theorem run_drain_cons {command : Value} {rest : List Value}
    (waits : before.waiting? queue = some (command :: rest)) (bound : Nat) :
    (drain call (.object id queue) world (bound + 1)).run before =
      ((send call command "apply" (.ofList [world])).bind fun _ =>
        drain call (.object id queue) world bound).run ((Change.pop queue).apply before) := by
  rw [drain, bind_eq, run_bind_of_ok (run_queueAt waits)]
  rfl

theorem changes_drain_cons {command : Value} {rest : List Value}
    (waits : before.waiting? queue = some (command :: rest)) (bound : Nat) :
    (drain call (.object id queue) world (bound + 1)).changes before =
      .pop queue :: ((send call command "apply" (.ofList [world])).bind fun _ =>
        drain call (.object id queue) world bound).changes ((Change.pop queue).apply before) := by
  rw [drain, bind_eq, changes_bind_of_ok (run_queueAt waits), changes_queueAt]
  rfl

/-- The command that left a queue is not in it any more. -/
theorem waiting?_pop {command : Value} {rest : List Value}
    (waits : before.waiting? queue = some (command :: rest)) :
    ((Change.pop queue).apply before).waiting? queue = some rest := by
  rw [Change.apply, Store.waiting?_modifyQueue, if_pos rfl, waits]
  rfl

theorem exists_waiting?_run {α : Type} (action : Action α)
    (waits : before.waiting? queue = some pending) :
    ∃ now, (action.run before).2.waiting? queue = some now := by
  rw [← replay_changes]
  exact Store.exists_waiting?_replay (action.changes before) waits

/-- A queue that was applied to the end is empty. -/
theorem waiting?_of_run_drain {bound : Nat} (waits : before.waiting? queue = some pending)
    (runs : (drain call (.object id queue) world bound).run before = (.ok (), after)) :
    after.waiting? queue = some [] := by
  induction bound generalizing before pending with
  | zero => simp [drain] at runs
  | succ bound ih =>
    cases pending with
    | nil =>
      rw [run_drain_nil waits] at runs
      cases runs
      exact waits
    | cons command rest =>
      rw [run_drain_cons waits, run_bind_eq_ok] at runs
      obtain ⟨answer, between, started, others⟩ := runs
      obtain ⟨now, waitsNow⟩ :=
        exists_waiting?_run (send call command "apply" (.ofList [world])) (waiting?_pop waits)
      rw [started] at waitsNow
      exact ih waitsNow others

/-- Where applying a queue fails, a command that it started failed, and nothing was done since. -/
theorem exists_started_of_run_drain {bound : Nat} {fault : Fault}
    (waits : before.waiting? queue = some pending)
    (runs : (drain call (.object id queue) world bound).run before = (.error fault, after))
    (fuelled : fault ≠ .outOfFuel) :
    ∃ moment command rest,
      let flush := drain call (.object id queue) world bound
      let taken := (Change.pop queue).apply (flush.reached before moment)
      let start := send call command "apply" (.ofList [world])
      (flush.reached before moment).waiting? queue = some (command :: rest) ∧
        flush.changes before =
          (flush.changes before).take moment ++ .pop queue :: start.changes taken ∧
        start.run taken = (.error fault, after) := by
  induction bound generalizing before pending with
  | zero =>
    cases runs
    exact absurd rfl fuelled
  | succ bound ih =>
    cases pending with
    | nil => simp [run_drain_nil waits] at runs
    | cons command rest =>
      have changed : (drain call (.object id queue) world (bound + 1)).changes before = _ :=
        changes_drain_cons waits bound
      rw [run_drain_cons waits] at runs
      cases started : (send call command "apply" (.ofList [world])).run
          ((Change.pop queue).apply before) with
      | mk outcome between =>
        cases outcome with
        | error raised =>
          rw [run_bind_of_error started] at runs
          cases runs
          refine ⟨0, command, rest, waits, ?_, started⟩
          rw [changed, changes_bind_of_error started]
          rfl
        | ok answer =>
          rw [run_bind_of_ok started] at runs
          rw [changes_bind_of_ok started] at changed
          obtain ⟨now, waitsNow⟩ :=
            exists_waiting?_run (send call command "apply" (.ofList [world])) (waiting?_pop waits)
          rw [started] at waitsNow
          have leads : before.replay (.pop queue ::
              (send call command "apply" (.ofList [world])).changes
                ((Change.pop queue).apply before)) = between := by
            rw [Store.replay_cons, replay_changes, started]
          rw [← List.cons_append] at changed
          obtain ⟨moment, last, left, waitsLast, fromLast, fails⟩ := ih waitsNow runs
          rw [← reached_of_changes_eq changed leads] at waitsLast fromLast fails
          refine ⟨_, last, left, waitsLast, ?_, fails⟩
          rw [changed, List.take_length_add_append, List.append_assoc, ← fromLast]

/-- What a run leaves in a queue is what waited and was pushed in it, less what it started. -/
theorem exists_left_of_run {α : Type} {action : Action α} {outcome : Except Fault α}
    (waits : before.waiting? queue = some pending) (runs : action.run before = (outcome, after)) :
    ∃ left, after.waiting? queue = some left ∧
      (.reset queue ∉ action.changes before →
        pending ++ pushes queue (action.changes before) =
          starts queue before (action.changes before) ++ left) := by
  have ends : before.replay (action.changes before) = after := by rw [replay_changes, runs]
  obtain ⟨left, waitsLeft⟩ := Store.exists_waiting?_replay (action.changes before) waits
  refine ⟨left, ends ▸ waitsLeft, fun keeps => ?_⟩
  obtain ⟨found, waitsFound, kept⟩ := Store.waiting?_replay waits keeps
  rw [waitsLeft] at waitsFound
  obtain rfl := Option.some.inj waitsFound
  exact kept

/-! ## The methods of a queue -/

theorem queueMethod_push (machine : Machine) (queue command : Value) :
    queueMethod machine "push" [queue, command] =
      (queueAt queue).bind fun found => silently (perform (.push found.1 command)) := rfl

theorem queueMethod_apply (machine : Machine) (queue world : Value) :
    queueMethod machine "apply" [queue, world] =
      silently (drain machine.call queue world machine.bound) := rfl

theorem changes_silently {action : Action Unit} :
    (silently action).changes before = action.changes before := by
  rw [silently, bind_eq, changes_bind]
  cases action.run before with
  | mk outcome after => cases outcome <;> exact List.append_nil _

theorem reached_silently {action : Action Unit} (moment : Nat) :
    (silently action).reached before moment = action.reached before moment := by
  rw [reached, reached, changes_silently]

theorem run_silently_eq_ok {action : Action Unit} {answer : Value} :
    (silently action).run before = (.ok answer, after) ↔
      action.run before = (.ok (), after) ∧ answer = .absent := by
  rw [silently, bind_eq, run_bind_eq_ok]
  constructor
  · rintro ⟨_, between, first, rfl, rfl⟩
    exact ⟨first, rfl⟩
  · rintro ⟨first, rfl⟩
    exact ⟨(), after, first, rfl⟩

theorem run_silently_eq_error {action : Action Unit} {fault : Fault} :
    (silently action).run before = (.error fault, after) ↔
      action.run before = (.error fault, after) := by
  rw [silently, bind_eq, run_bind]
  cases action.run before with
  | mk outcome between => cases outcome <;> simp

/-! ## Every state of a queue -/

/-- What the methods of a queue do in a state in which some commands wait in it. -/
structure ServesInOrder (machine : Machine) (queue : Ref) (world : Value) (state : Store)
    (now : List Value) : Prop where
  waits : state.waiting? queue = some now
  /-- A command that is pushed is put behind all others, and nothing else is done. -/
  push_last : ∀ id command,
    let push := queueMethod machine "push" [.object id queue, command]
    (push.run state).1 = .ok .absent ∧ push.changes state = [.push queue command]
  /-- Going on with a queue takes its first command out and starts this command at once. -/
  start_first : ∀ id command rest bound, now = command :: rest →
    let next := (send machine.call command "apply" (.ofList [world])).bind fun _ =>
      drain machine.call (.object id queue) world bound
    let taken := (Change.pop queue).apply state
    taken.waiting? queue = some rest ∧
      (drain machine.call (.object id queue) world (bound + 1)).changes state =
        .pop queue :: next.changes taken ∧
      (drain machine.call (.object id queue) world (bound + 1)).run state = next.run taken
  /-- A queue that was applied to the end is empty. -/
  empty_after : ∀ id answer after,
    (queueMethod machine "apply" [.object id queue, world]).run state = (.ok answer, after) →
      after.waiting? queue = some []
  /-- A command that fails is the last that is started; the commands behind it are left. -/
  stop_at_failure : ∀ id fault after,
    let flush := queueMethod machine "apply" [.object id queue, world]
    flush.run state = (.error fault, after) → fault ≠ .outOfFuel →
      ∃ moment command rest left,
        let start := send machine.call command "apply" (.ofList [world])
        let taken := (Change.pop queue).apply (flush.reached state moment)
        (flush.reached state moment).waiting? queue = some (command :: rest) ∧
          flush.changes state =
            (flush.changes state).take moment ++ .pop queue :: start.changes taken ∧
          start.run taken = (.error fault, after) ∧
          after.waiting? queue = some left ∧
          (.reset queue ∉ start.changes taken →
            rest ++ pushes queue (start.changes taken) =
              starts queue taken (start.changes taken) ++ left)

theorem servesInOrder (machine : Machine) {queue : Ref} (world : Value) {state : Store}
    {now : List Value} (waits : state.waiting? queue = some now) :
    ServesInOrder machine queue world state now where
  waits := waits
  push_last id command := by
    dsimp only
    rw [queueMethod_push, run_bind_of_ok (run_queueAt waits),
      changes_bind_of_ok (run_queueAt waits), changes_queueAt]
    exact ⟨rfl, rfl⟩
  start_first id command rest bound isFirst := by
    subst isFirst
    exact ⟨waiting?_pop waits, changes_drain_cons waits bound, run_drain_cons waits bound⟩
  empty_after id answer after runs := by
    rw [queueMethod_apply, run_silently_eq_ok] at runs
    exact waiting?_of_run_drain waits runs.1
  stop_at_failure id fault after := by
    dsimp only
    simp only [queueMethod_apply, run_silently_eq_error, changes_silently, reached_silently]
    intro runs fuelled
    obtain ⟨moment, command, rest, waitsFirst, changed, fails⟩ :=
      exists_started_of_run_drain waits runs fuelled
    obtain ⟨left, waitsLeft, kept⟩ := exists_left_of_run (waiting?_pop waitsFirst) fails
    exact ⟨moment, command, rest, left, waitsFirst, changed, fails, waitsLeft, kept⟩

/-- At every moment of every run a queue has lost, doubled and exchanged nothing: what waited in it
at an earlier moment and was pushed since is what was started since, then what waits now, all in
one order.  From such a state the queue goes on in order. -/
theorem queue_conserves_commands {α : Type} (machine : Machine) (world : Value)
    (action : Action α) (origin : Store) (moment length : Nat) {queue : Ref}
    {pending : List Value} (waits : (action.reached origin moment).waiting? queue = some pending)
    (keeps : .reset queue ∉ action.stretch origin moment length) :
    let since := action.stretch origin moment length
    ∃ now,
      pending ++ pushes queue since = starts queue (action.reached origin moment) since ++ now ∧
        ServesInOrder machine queue world (action.reached origin (moment + length)) now := by
  obtain ⟨now, waitsNow, kept⟩ := Store.waiting?_replay waits keeps
  rw [replay_stretch] at waitsNow
  exact ⟨now, kept, servesInOrder machine world waitsNow⟩

/-- A queue in which a command waits, and a value that is no command behind it. -/
def twoWaiting : Store :=
  { cells := #[{ object := .queue [.object ClassId.scriptCommand 1, .bool true] },
      { object := .plain }] }

/-- Every call pushes to the queue at the first place and then fails. -/
def pushAndFail : Machine where
  call _ _ := (perform (.push 0 (.bool false))).bind fun _ => fail (.misuse .arguments)
  bound := 1

/-- A command that pushes to its own queue and then fails was started once; the value behind it and
the one it pushed are left. -/
theorem queue_conserves_commands_pushAndFail :
    let flush := queueMethod pushAndFail "apply" [.object ClassId.commandQueue 0, .absent]
    let since := flush.stretch twoWaiting 0 3
    since = [.pop 0, .takeMark, .push 0 (.bool false)] ∧
      (flush.reached twoWaiting 3).waiting? 0 = some [.bool true, .bool false] ∧
      ∃ now, [.object ClassId.scriptCommand 1, .bool true] ++ pushes 0 since =
          starts 0 (flush.reached twoWaiting 0) since ++ now ∧
        ServesInOrder pushAndFail 0 .absent (flush.reached twoWaiting (0 + 3)) now := by
  intro flush since
  have isSince : since = [.pop 0, .takeMark, .push 0 (.bool false)] := by rfl
  have keeps : .reset 0 ∉ since := by
    rw [isSince]
    simp
  have left : (flush.reached twoWaiting 3).waiting? 0 = some [.bool true, .bool false] := by rfl
  exact ⟨isSince, left,
    queue_conserves_commands pushAndFail .absent flush twoWaiting 0 3 rfl keeps⟩

end Action

end Deferred
