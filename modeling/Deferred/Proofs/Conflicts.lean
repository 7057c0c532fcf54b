import Deferred.Generation.Install
import Deferred.Proofs.Lookups
import Deferred.Proofs.Reading

/-!
# Conflicts of an installation

Looking for conflicts changes nothing but marks, as long as no function answers for the attributes
that are looked at.  When no conflict is found, every host type is ready for the method, and every
published name is free or stands for something that a generation made.
-/

namespace Deferred

open Store Action

/-! ## Reading without hooks -/

/-- No function answers for the attributes of a value. -/
structure Store.Unhooked (store : Store) (value : Value) : Prop where
  every : special? store value "__getattribute__" = none
  missing : special? store value "__getattr__" = none

namespace Value.Again

variable {found again : Value} {store : Store}

theorem isPresent_eq (reads : Again found again) : again.isPresent = found.isPresent := by
  cases reads <;> rfl

theorem answers_eq (reads : Again found again) (name : String) :
    store.answers again name = store.answers found name := by
  cases reads with
  | same => rfl
  | bound receiver function mark other =>
    exact store.answers_bound receiver function other mark name

theorem isGenerated_eq (reads : Again found again) :
    store.isGenerated again = store.isGenerated found := by
  cases reads <;> rfl

theorem unhooked (reads : Again found again) (unhooked : store.Unhooked found) :
    store.Unhooked again := by
  cases reads with
  | same => exact unhooked
  | bound => exact ⟨unhooked.every, unhooked.missing⟩

end Value.Again

namespace Action

variable {store before after : Store} {machine : Machine} {call : Caller} {value : Value}
  {name : String} {id : ClassId}

theorem lateAttribute?_cls_of_plain (store : Store) (plain : isSpecial name = false) :
    lateAttribute? store (.cls id) name = none := by
  have fields : name ≠ "__dataclass_fields__" := ne_of_isSpecial plain (by decide)
  have parameters : name ≠ "__dataclass_params__" := ne_of_isSpecial plain (by decide)
  rw [lateAttribute?, lateClassAttribute?]
  · simp only [fieldAttribute?, fields, parameters, if_false]
  all_goals exact ne_of_isSpecial plain (by decide)

theorem lateAttribute?_module_of_plain (store : Store) {module : String}
    (plain : isSpecial name = false) :
    lateAttribute? store (.module module) name = none := by
  have dict : name ≠ "__dict__" := ne_of_isSpecial plain (by decide)
  have annotations : name ≠ "__annotations__" := ne_of_isSpecial plain (by decide)
  simp only [lateAttribute?, dict, annotations, false_and, if_false]

/-- The marks of methods and of routines are never made when they are asked for. -/
theorem lateAttribute?_mark (isMark : name = extensionMark ∨ name = artifactAttribute) :
    lateAttribute? store value name = none := by
  cases value with
  | object id place =>
    have free : name ∉ answeredNames := by rcases isMark with rfl | rfl <;> decide
    refine lateAttribute?_object free fun object _ => ?_
    cases object with
    | function function =>
      obtain ⟨_, _, _, _, _, _, body, _⟩ := function
      rcases isMark with rfl | rfl <;> cases body <;> rfl
    | _ => rcases isMark with rfl | rfl <;> rfl
  | _ => rcases isMark with rfl | rfl <;> rfl

/-- What a value has under a name is told without changing anything but marks. -/
theorem run_present? (machine : Machine) (unhooked : store.Unhooked value)
    (late : lateAttribute? store value name = none) :
    ∃ found marks, (present? machine value name).run store = (.ok found, { store with marks }) ∧
      (found = none → store.answers value name = false) ∧
      ∀ again, found = some again → ∃ there, store.attribute? value name = some there ∧
        there.isPresent = true ∧ Value.Again there again := by
  have reads : (attribute? machine.call value name).run store =
      (plainAttribute? machine.call value name).run store := by
    rw [Action.attribute?, bind_eq, run_bind_of_ok (run_callSpecial?_none unhooked.every)]
  cases isThere : store.attribute? value name with
  | none =>
    have missing : (attribute? machine.call value name).run store = (.ok none, store) := by
      rw [reads, plainAttribute?]
      simp only [bind_eq, run_store_bind, late, isThere]
      exact run_callSpecial?_none unhooked.missing
    refine ⟨none, store.marks, ?_, fun _ => by simp [answers, isThere], by simp⟩
    rw [present?, bind_eq, run_bind_of_ok (run_attempt _ _), missing]
    rfl
  | some there =>
    obtain ⟨again, marks, renews, -, isAgain⟩ := run_renewed store value there name store
    have read : (attribute? machine.call value name).run store =
        (.ok (some again), { store with marks }) := by
      rw [reads, plainAttribute?]
      simp only [bind_eq, run_store_bind, late, isThere, pure_eq_done]
      rw [run_bind_of_ok renews]
      rfl
    cases present : there.isPresent with
    | false =>
      have isAbsent : again = .absent := by
        have absent := isAgain.isPresent_eq.trans present
        cases again <;> first | rfl | simp [Value.isPresent] at absent
      refine ⟨none, marks, ?_, fun _ => by simp [answers, isThere, present], by simp⟩
      rw [present?, bind_eq, run_bind_of_ok (run_attempt _ _), read, isAbsent]
      rfl
    | true =>
      refine ⟨some again, marks, ?_, by simp, fun other isOther => ?_⟩
      · have isPresent := isAgain.isPresent_eq.trans present
        rw [present?, bind_eq, run_bind_of_ok (run_attempt _ _), read]
        cases again <;> first | rfl | simp [Value.isPresent] at isPresent
      · cases isOther
        exact ⟨there, rfl, present, isAgain⟩

end Action

/-! ## Looking for conflicts -/

/-- May a method be put on a class?  What the class has under the name is nothing, or carries the
mark of a method. -/
def Store.isReplaceable (store : Store) (id : ClassId) (method : String) : Prop :=
  ∀ there, store.attribute? (.cls id) method = some there → there.isPresent = true →
    store.answers there extensionMark = true

/-- May a name of a module be bound?  What stands under it is nothing, or was generated. -/
def Store.isBindable (store : Store) (module name : String) : Prop :=
  ∀ there, store.attribute? (.module module) name = some there → there.isPresent = true →
    store.isGenerated there = true

@[simp] theorem Store.isReplaceable_marks (store : Store) (marks : Nat) (id : ClassId)
    (method : String) :
    Store.isReplaceable { store with marks } id method ↔ store.isReplaceable id method := by
  simp only [isReplaceable, attribute?_marks, answers_marks]

@[simp] theorem Store.isBindable_marks (store : Store) (marks : Nat) (module name : String) :
    Store.isBindable { store with marks } module name ↔ store.isBindable module name := by
  simp only [isBindable, attribute?_marks]
  exact Iff.rfl

/-- No function answers for a class, or for what the class has under the name of a method. -/
structure Store.Quiet (store : Store) (method : String) (id : ClassId) : Prop where
  type : store.Unhooked (.cls id)
  existing : ∀ there, store.attribute? (.cls id) method = some there → store.Unhooked there

namespace Action

variable {store before after : Store} {machine : Machine} {method : String}
  {generation : Generation}

theorem unhooked_marks {value : Value} (marks : Nat) (unhooked : store.Unhooked value) :
    Store.Unhooked { store with marks } value := ⟨unhooked.every, unhooked.missing⟩

theorem quiet_marks {id : ClassId} (marks : Nat) (quiet : store.Quiet method id) :
    Store.Quiet { store with marks } method id where
  type := unhooked_marks marks quiet.type
  existing there isThere :=
    unhooked_marks marks (quiet.existing there (by simpa using isThere))

/-- Looking for an attribute that a method would hide finds one, unless the method may be put on
every host type. -/
theorem run_attributeConflict? (machine : Machine) {ids : List ClassId}
    (plain : isSpecial method = false) (quiet : ∀ id ∈ ids, store.Quiet method id) :
    ∃ conflict marks, (attributeConflict? machine method ids).run store =
        (.ok conflict, { store with marks }) ∧
      (conflict = none → ∀ id ∈ ids, store.isReplaceable id method) := by
  induction ids generalizing store with
  | nil => exact ⟨none, store.marks, rfl, by simp⟩
  | cons id rest ih =>
    have quietFirst := quiet id List.mem_cons_self
    have quietRest : ∀ marks, ∀ other ∈ rest, Store.Quiet { store with marks } method other :=
      fun marks other isIn => quiet_marks marks (quiet other (List.mem_cons_of_mem _ isIn))
    obtain ⟨found, marks, looks, isMissing, isFound⟩ := run_present? machine
      quietFirst.type (lateAttribute?_cls_of_plain _ plain)
    simp only [attributeConflict?, bind_eq, Value.ofClass]
    rw [run_bind_of_ok looks]
    cases found with
    | none =>
      obtain ⟨conflict, later, looksOn, free⟩ := ih (quietRest marks)
      refine ⟨conflict, later, looksOn, fun isNone => List.forall_mem_cons.mpr ⟨?_, ?_⟩⟩
      · intro there isThere present
        have missing := isMissing rfl
        simp [Store.answers, isThere, present] at missing
      · simpa using free isNone
    | some existing =>
      obtain ⟨there, isThere, -, isAgain⟩ := isFound existing rfl
      have unhooked := isAgain.unhooked (quietFirst.existing there isThere)
      obtain ⟨mark, used, looksToo, isUnmarked, isMarked⟩ := run_present? machine
        (unhooked_marks marks unhooked) (lateAttribute?_mark (.inl rfl))
      rw [run_bind_of_ok looksToo]
      cases mark with
      | none => exact ⟨_, used, rfl, by simp⟩
      | some mark =>
        obtain ⟨conflict, later, looksOn, free⟩ := ih (quietRest used)
        refine ⟨conflict, later, looksOn, fun isNone => List.forall_mem_cons.mpr ⟨?_, ?_⟩⟩
        · intro other isOther _
          obtain ⟨content, isContent, present, -⟩ := isMarked mark rfl
          rw [isThere] at isOther
          cases isOther
          rw [← isAgain.answers_eq, Store.answers, ← attribute?_marks store marks, isContent]
          exact present
        · simpa using free isNone

theorem special?_module {module : String} : special? store (.module module) name = none := rfl

theorem run_isNameTaken (machine : Machine) (store : Store) (module : String)
    (plain : isSpecial name = false) :
    ∃ taken marks, (isNameTaken machine module name).run store =
        (.ok taken, { store with marks }) ∧
      (taken = false → (store.moduleNames? module).isSome → store.isBindable module name) := by
  simp only [isNameTaken, bind_eq, run_store_bind]
  cases isLoaded : store.moduleNames? module with
  | none => exact ⟨false, store.marks, rfl, by simp⟩
  | some names =>
    obtain ⟨found, marks, looks, isMissing, isFound⟩ := run_present? machine
      ⟨special?_module, special?_module⟩ (lateAttribute?_module_of_plain store plain)
    simp only [Option.isNone_some, Bool.false_eq_true, if_false]
    rw [run_bind_of_ok looks]
    cases found with
    | none =>
      refine ⟨false, marks, rfl, fun _ _ there isThere present => ?_⟩
      have missing := isMissing rfl
      simp [Store.answers, isThere, present] at missing
    | some existing =>
      obtain ⟨there, isThere, -, isAgain⟩ := isFound existing rfl
      refine ⟨!store.isGenerated existing, marks, rfl, fun isFree _ other isOther _ => ?_⟩
      rw [isThere] at isOther
      cases isOther
      rw [← isAgain.isGenerated_eq]
      simpa using isFree

theorem run_nameConflict? (machine : Machine) (generation : Generation) (store : Store)
    {names : List (String × Value)}
    (plain : ∀ entry ∈ names, isSpecial entry.1 = false) :
    ∃ conflict marks, (nameConflict? machine generation names).run store =
        (.ok conflict, { store with marks }) ∧
      (conflict = none → ∀ entry ∈ names, entry.1 ≠ generation.name ∧
        ((store.moduleNames? generation.home).isSome →
          store.isBindable generation.home entry.1)) := by
  induction names generalizing store with
  | nil => exact ⟨none, store.marks, rfl, by simp⟩
  | cons entry rest ih =>
    obtain ⟨name, value⟩ := entry
    have plainRest : ∀ entry ∈ rest, isSpecial entry.1 = false := fun other isIn =>
      plain other (List.mem_cons_of_mem _ isIn)
    simp only [nameConflict?, bind_eq, run_store_bind]
    split
    · exact ⟨_, store.marks, rfl, by simp⟩
    · rename_i notRoutine
      obtain ⟨taken, marks, looks, isFree⟩ := run_isNameTaken machine store
        generation.home (plain _ List.mem_cons_self)
      rw [run_bind_of_ok looks]
      cases taken with
      | true => exact ⟨_, marks, rfl, by simp⟩
      | false =>
        obtain ⟨conflict, later, looksOn, free⟩ := ih { store with marks } plainRest
        refine ⟨conflict, later, looksOn, fun isNone => List.forall_mem_cons.mpr
          ⟨⟨notRoutine, isFree rfl⟩, fun other isIn => ?_⟩⟩
        obtain ⟨apart, bindable⟩ := free isNone other isIn
        exact ⟨apart, fun isLoaded => (isBindable_marks _ _ _ _).mp (bindable isLoaded)⟩

/-- A generation that can be looked at without running anything: it goes by plain names, and no
function answers for the host types, or for what they have under the name of the method. -/
structure Expected (store : Store) (generation : Generation) : Prop where
  method : isSpecial generation.method = false
  published : ∀ entry ∈ generation.published store, isSpecial entry.1 = false
  quiet : ∀ entry ∈ generation.implementations, store.Quiet generation.method entry.1

/-- Nothing is in the way of a generation. -/
structure Unopposed (store : Store) (generation : Generation) : Prop where
  replaceable : ∀ entry ∈ generation.implementations,
    store.isReplaceable entry.1 generation.method
  notRoutine : ∀ entry ∈ generation.published store, entry.1 ≠ generation.name
  bindable : (store.moduleNames? generation.home).isSome →
    ∀ entry ∈ generation.published store, store.isBindable generation.home entry.1

/-- Looking for conflicts uses up marks; where none is found, nothing is in the way. -/
theorem run_installConflict? (machine : Machine) (expected : Expected store generation) :
    ∃ conflict marks, (installConflict? machine generation).run store =
        (.ok conflict, { store with marks }) ∧
      (conflict = none → Unopposed store generation) := by
  have quiet : ∀ id ∈ generation.implementations.map Prod.fst,
      store.Quiet generation.method id := by
    intro id isIn
    obtain ⟨entry, isEntry, rfl⟩ := List.mem_map.mp isIn
    exact expected.quiet entry isEntry
  obtain ⟨first, marks, looks, replaceable⟩ := run_attributeConflict? machine
    expected.method quiet
  simp only [installConflict?, bind_eq]
  rw [run_bind_of_ok looks]
  cases first with
  | some conflict => exact ⟨_, marks, rfl, by simp⟩
  | none =>
    obtain ⟨second, later, looksOn, free⟩ := run_nameConflict? machine generation
      { store with marks } expected.published
    refine ⟨second, later, looksOn, fun isNone => ⟨fun entry isIn => ?_, fun entry isIn => ?_,
      fun isLoaded entry isIn => ?_⟩⟩
    · exact replaceable rfl entry.1 (List.mem_map.mpr ⟨entry, isIn, rfl⟩)
    · exact (free isNone entry isIn).1
    · exact (isBindable_marks _ _ _ _).mp ((free isNone entry isIn).2 isLoaded)

end Action

end Deferred
