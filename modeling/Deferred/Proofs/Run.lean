import Deferred.Action

/-!
# What runs come to

Running an action is running its parts in turn.  The equations here say what each way of building an
action runs to, so that a run is followed by rewriting; a run that came to an answer is taken apart
into the runs of its parts.
-/

namespace Deferred.Action

variable {α β γ : Type}

/-! ## Building -/

@[simp] theorem pure_eq_done (value : α) : (pure value : Action α) = done value := rfl

@[simp] theorem bind_eq (action : Action α) (next : α → Action β) :
    action >>= next = action.bind next := rfl

@[simp] theorem done_bind (value : α) (next : α → Action β) :
    (done value).bind next = next value := rfl

@[simp] theorem fail_bind (fault : Fault) (next : α → Action β) :
    (fail fault).bind next = fail fault := rfl

@[simp] theorem read_bind (first : Store → Action α) (next : α → Action β) :
    (read first).bind next = read fun store => (first store).bind next := rfl

@[simp] theorem write_bind (change : Change) (rest : Action α) (next : α → Action β) :
    (write change rest).bind next = write change (rest.bind next) := rfl

theorem bind_assoc (action : Action α) (first : α → Action β) (second : β → Action γ) :
    (action.bind first).bind second = action.bind fun value => (first value).bind second := by
  induction action with
  | done value => rfl
  | fail fault => rfl
  | read start ih =>
    simp only [read_bind]
    congr 1
    funext store
    exact ih store
  | write change rest ih =>
    simp only [write_bind]
    rw [ih]

@[simp] theorem bind_done (action : Action α) : action.bind done = action := by
  induction action with
  | done value => rfl
  | fail fault => rfl
  | read start ih =>
    rw [read_bind]
    congr 1
    funext store
    exact ih store
  | write change rest ih => rw [write_bind, ih]

/-! ## Running -/

@[simp] theorem run_read (next : Store → Action α) (store : Store) :
    (read next).run store = (next store).run store := rfl

@[simp] theorem run_store_bind (next : Store → Action α) (before : Store) :
    (store.bind next).run before = (next before).run before := rfl

@[simp] theorem run_perform (change : Change) (before : Store) :
    (perform change).run before = (.ok (), change.apply before) := rfl

@[simp] theorem run_perform_bind (change : Change) (next : Unit → Action α) (before : Store) :
    ((perform change).bind next).run before = (next ()).run (change.apply before) := rfl

@[simp] theorem run_allocate (id : ClassId) (object : Object) (attributes : Bindings)
    (before : Store) :
    (allocate id object attributes).run before =
      (.ok (.object id before.cells.size), (Change.allocate object attributes).apply before) := rfl

@[simp] theorem run_allocate_bind (id : ClassId) (object : Object) (attributes : Bindings)
    (next : Value → Action α) (before : Store) :
    ((allocate id object attributes).bind next).run before =
      (next (.object id before.cells.size)).run
        ((Change.allocate object attributes).apply before) := rfl

@[simp] theorem run_fresh (make : Mark → Value) (before : Store) :
    (fresh make).run before = (.ok (make before.nextMark), Change.takeMark.apply before) := rfl

@[simp] theorem run_fresh_bind (make : Mark → Value) (next : Value → Action α) (before : Store) :
    ((fresh make).bind next).run before =
      (next (make before.nextMark)).run (Change.takeMark.apply before) := rfl

@[simp] theorem orFail_some (fault : Fault) (value : α) : orFail fault (some value) = done value :=
  rfl

@[simp] theorem orFail_none (fault : Fault) : orFail fault (none : Option α) = fail fault := rfl

/-- An action that comes to an answer is followed by what is done with the answer. -/
theorem run_bind_of_ok {action : Action α} {before after : Store} {value : α}
    (runs : action.run before = (.ok value, after)) (next : α → Action β) :
    (action.bind next).run before = (next value).run after := by
  rw [run_bind, runs]

/-- An action that fails is followed by nothing. -/
theorem run_bind_of_error {action : Action α} {before after : Store} {fault : Fault}
    (runs : action.run before = (.error fault, after)) (next : α → Action β) :
    (action.bind next).run before = (.error fault, after) := by
  rw [run_bind, runs]

/-- Two actions in turn come to an answer when the first does and the second does so after it. -/
theorem run_bind_eq_ok {action : Action α} {next : α → Action β} {before after : Store}
    {answer : β} :
    (action.bind next).run before = (.ok answer, after) ↔
      ∃ value between, action.run before = (.ok value, between) ∧
        (next value).run between = (.ok answer, after) := by
  rw [run_bind]
  constructor
  · intro runs
    cases first : action.run before with
    | mk outcome between =>
      rw [first] at runs
      cases outcome with
      | ok value => exact ⟨value, between, rfl, runs⟩
      | error fault => simp at runs
  · rintro ⟨value, between, first, second⟩
    rw [first]
    exact second

/-- Two actions in turn fail when the first one does, or when the second one does after it. -/
theorem run_bind_eq_error {action : Action α} {next : α → Action β} {before after : Store}
    {fault : Fault} :
    (action.bind next).run before = (.error fault, after) ↔
      action.run before = (.error fault, after) ∨
        ∃ value between, action.run before = (.ok value, between) ∧
          (next value).run between = (.error fault, after) := by
  rw [run_bind]
  cases action.run before with
  | mk outcome between =>
    cases outcome with
    | ok value =>
      constructor
      · exact fun fails => .inr ⟨value, between, rfl, fails⟩
      · rintro (fails | ⟨_, _, ⟨⟩, fails⟩)
        · cases fails
        · exact fails
    | error cause => simp

/-- What is done with an action is the same when the actions run alike. -/
theorem run_bind_congr {first second : Action α} {before between : Store}
    (alike : first.run before = second.run between) (next : α → Action β) :
    (first.bind next).run before = (second.bind next).run between := by
  rw [run_bind, run_bind, alike]

/-- An action followed by actions that run alike. -/
theorem run_bind_next {action : Action α} {first second : α → Action β}
    (alike : ∀ value store, (first value).run store = (second value).run store) (before : Store) :
    (action.bind first).run before = (action.bind second).run before := by
  rw [run_bind, run_bind]
  cases action.run before with
  | mk outcome after =>
    cases outcome with
    | ok value => exact alike value after
    | error fault => rfl

theorem forEach_cons (item : β) (rest : List β) (step : β → Action Unit) :
    forEach (item :: rest) step = (step item).bind fun _ => forEach rest step := rfl

/-- Doing an action for the items of two lists is doing it for those of the first, then for those of
the second. -/
theorem forEach_append_eq_ok {items more : List β} {step : β → Action Unit}
    {before after : Store} :
    (forEach (items ++ more) step).run before = (.ok (), after) ↔
      ∃ between, (forEach items step).run before = (.ok (), between) ∧
        (forEach more step).run between = (.ok (), after) := by
  induction items generalizing before with
  | nil => exact ⟨fun runs => ⟨before, rfl, runs⟩, fun ⟨_, first, second⟩ => by cases first; exact second⟩
  | cons item rest ih =>
    rw [List.cons_append, forEach_cons, forEach_cons, run_bind_eq_ok]
    constructor
    · rintro ⟨answer, reached, first, others⟩
      obtain ⟨between, second, third⟩ := ih.mp others
      exact ⟨between, run_bind_eq_ok.mpr ⟨answer, reached, first, second⟩, third⟩
    · rintro ⟨between, first, third⟩
      obtain ⟨answer, reached, first, second⟩ := run_bind_eq_ok.mp first
      exact ⟨answer, reached, first, ih.mpr ⟨between, second, third⟩⟩

theorem forEach_cons_eq_ok {item : β} {rest : List β} {step : β → Action Unit}
    {before after : Store} :
    (forEach (item :: rest) step).run before = (.ok (), after) ↔
      ∃ between, (step item).run before = (.ok (), between) ∧
        (forEach rest step).run between = (.ok (), after) := by
  rw [forEach_cons, run_bind_eq_ok]
  exact ⟨fun ⟨_, between, first, others⟩ => ⟨between, first, others⟩,
    fun ⟨between, first, others⟩ => ⟨(), between, first, others⟩⟩

/-- Doing an action for each item keeps what doing it for one item keeps. -/
theorem forEach_keeps {items : List β} {step : β → Action Unit} (Kept : Store → Prop)
    (one : ∀ item ∈ items, ∀ before after, Kept before →
      (step item).run before = (.ok (), after) → Kept after)
    {before after : Store} (kept : Kept before)
    (runs : (forEach items step).run before = (.ok (), after)) : Kept after := by
  induction items generalizing before with
  | nil =>
    cases runs
    exact kept
  | cons item rest ih =>
    rw [forEach_cons, run_bind_eq_ok] at runs
    obtain ⟨value, between, first, others⟩ := runs
    have keptBetween := one item List.mem_cons_self before between kept first
    exact ih (fun other isIn => one other (List.mem_cons_of_mem item isIn)) keptBetween others

/-- Asking for the outcome of an action does what the action does. -/
theorem run_attempt (action : Action α) (before : Store) :
    action.attempt.run before = (.ok (action.run before).1, (action.run before).2) := by
  induction action generalizing before with
  | done value => rfl
  | fail fault => rfl
  | read next ih => exact ih before before
  | write change next ih => exact ih (change.apply before)

/-! ## The answers of closed runs -/

/-- The answer of an action, and the store that is left. -/
def answerOf [Inhabited α] (action : Action α) (store : Store) : α × Store :=
  match action.run store with
  | (.ok value, after) => (value, after)
  | (.error _, after) => (default, after)

/-- The kind of exception that an action ends with, if it fails. -/
def kindOf? (action : Action α) (store : Store) : Option String :=
  match (action.run store).1 with
  | .ok _ => none
  | .error fault => some fault.kind

theorem run_eq_answerOf [Inhabited α] {action : Action α} {store : Store}
    (answers : (action.run store).1.isOk = true) :
    action.run store = (.ok (answerOf action store).1, (answerOf action store).2) := by
  rw [answerOf]
  cases runs : action.run store with
  | mk outcome after =>
    cases outcome with
    | ok value => rfl
    | error fault =>
      rw [runs] at answers
      cases answers

end Deferred.Action
