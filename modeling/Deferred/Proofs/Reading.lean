import Deferred.Call.Construct
import Deferred.Proofs.Host

/-!
# Reading and setting attributes

What reading an attribute comes to when the class of the value has no say in it: an attribute that
the value keeps itself is answered as it is, a method that its class has is bound to the value, and
nothing but marks is used up.
-/

namespace Deferred

/-- One value is another one read again: a bound method is bound anew each time. -/
inductive Value.Again : Value → Value → Prop
  | same (value : Value) : Again value value
  | bound (receiver function : Value) (mark other : Mark) :
    Again (.bound receiver function mark) (.bound receiver function other)

namespace Action

open Store

variable {store : Store} {call : Caller} {value found : Value} {id : ClassId} {place : Ref}
  {name : String}

/-- Names whose attributes are made when they are asked for, or that classes answer for. -/
def answeredNames : List String :=
  ["__annotations__", "__dataclass_fields__", "__dataclass_params__", "__dict__", "__doc__",
    "__module__"]

/-! ## Special methods -/

theorem special?_of_member {owner : ClassId} {member : Member}
    (isMember : store.find value.classId name = some (.member owner name member)) :
    special? store value name = none := by
  rw [special?, isMember]
  split <;> rfl

theorem run_callSpecial?_none {arguments : List Value} {before : Store}
    (missing : special? before value name = none) :
    (callSpecial? call value name arguments).run before = (.ok none, before) := by
  simp only [callSpecial?, bind_eq, run_store_bind, missing, pure_eq_done, run_done]

/-! ## Reading -/

/-- An attribute that is there is read without calling anything. -/
theorem run_getAttribute_found (plain : special? store value "__getattribute__" = none)
    (late : lateAttribute? store value name = none)
    (isFound : store.attribute? value name = some found) :
    (getAttribute call value name).run store = (renewed store value name found).run store := by
  simp only [getAttribute, attribute?, callSpecial?, plainAttribute?, bind_eq, pure_eq_done,
    run_store_bind, bind_assoc, plain, late, isFound, done_bind, orFail_some, bind_done]

/-- Reading again what is found uses up a mark at most. -/
theorem run_renewed (store : Store) (value found : Value) (name : String) (before : Store) :
    ∃ again marks, (renewed store value name found).run before =
        (.ok again, { before with marks }) ∧
      before.marks ≤ marks ∧ Value.Again found again := by
  cases found with
  | bound receiver function mark =>
    rw [renewed]
    split
    · exact ⟨_, before.marks + 1, rfl, Nat.le_succ _, .bound receiver function mark _⟩
    · exact ⟨_, before.marks, rfl, Nat.le_refl _, .same _⟩
  | _ => exact ⟨_, before.marks, rfl, Nat.le_refl _, .same _⟩

/-- What a value keeps itself is read as it is. -/
theorem renewed_of_own (own : store.ownAttribute? value name = some found) :
    renewed store value name found = done found := by
  cases found with
  | bound receiver function mark => simp [renewed, own]
  | _ => rfl

/-- Asking for an attribute that is not answered for leads to what the object keeps. -/
theorem lateAttribute?_of_own (own : store.ownAttribute? (.object id place) name = some found) :
    lateAttribute? store (.object id place) name = none := by
  simp only [lateAttribute?, own]
  rfl

/-- Attributes are not made late under other names than those that are answered for. -/
theorem lateAttribute?_object (free : name ∉ answeredNames)
    (late : ∀ object, store.object? place = some object →
      lateObjectAttribute? store (.object id place) object name = none) :
    lateAttribute? store (.object id place) name = none := by
  simp only [answeredNames, List.mem_cons, List.not_mem_nil, or_false, not_or] at free
  obtain ⟨annotations, fields, parameters, -, -, -⟩ := free
  rw [lateAttribute?]
  split
  · rfl
  · simp only [annotations, false_and, if_false]
    simp only [fieldAttribute?, fields, parameters, if_false, objectOf?]
    cases stands : store.object? place with
    | none => rfl
    | some object => exact late object stands

/-- Does what a class has under a name leave the name to its instances?  A part does not, and
neither does the class that every instance has. -/
def leavesToInstance : Option Found → Bool
  | some (.member _ _ .property) => false
  | some (.member _ "__class__" _) => false
  | _ => true

theorem instanceAttribute?_of_own (leaves : leavesToInstance (store.find value.classId name) = true)
    (own : store.ownAttribute? value name = some found) :
    store.instanceAttribute? value name = some found := by
  have reads : ∀ there, store.find value.classId name = there → leavesToInstance there = true →
      store.instanceAttribute? value name = some found := by
    intro there isThere leaves
    rw [instanceAttribute?, isThere]
    split
    · simp [leavesToInstance] at leaves
    · rename_i owner kind differs
      cases kind <;> simp [leavesToInstance] at leaves
    · rw [own]
  exact reads _ rfl leaves

/-- An attribute that an object keeps itself is read as it is, unless its class has a say in it. -/
theorem run_getAttribute_own
    (plain : special? store (.object id place) "__getattribute__" = none)
    (leaves : leavesToInstance (store.find id name) = true)
    (own : store.ownAttribute? (.object id place) name = some found) :
    (getAttribute call (.object id place) name).run store = (.ok found, store) := by
  have isFound : store.attribute? (.object id place) name = some found :=
    instanceAttribute?_of_own leaves own
  rw [run_getAttribute_found plain (lateAttribute?_of_own own) isFound, renewed_of_own own, run_done]

/-- What the class of an object has under a name is seen bound to the object. -/
theorem attribute?_of_found {there : Found} (free : name ∉ answeredNames)
    (isThere : store.find id name = some there)
    (leaves : leavesToInstance (some there) = true)
    (own : store.ownAttribute? (.object id place) name = none)
    (part : store.partOf? (.object id place) name = none) :
    store.attribute? (.object id place) name =
      some (store.bindFound (.object id place) there) := by
  have reads : store.attribute? (.object id place) name =
      store.inherited? (.object id place) name := by
    rw [Store.attribute?, instanceAttribute?]
    · simp only [Value.classId, isThere]
      split
      · simp_all [leavesToInstance]
      · simp_all [leavesToInstance]
      · rw [own, part]
    all_goals simp
  simp only [answeredNames, List.mem_cons, List.not_mem_nil, or_false, not_or] at free
  obtain ⟨-, -, -, -, doc, home⟩ := free
  rw [reads, inherited?]
  · simp only [Value.classId, isThere, Option.map_some]
  · exact doc
  · exact home

/-- A method of the host is bound to its receiver anew. -/
theorem run_getAttribute_member {owner : ClassId} {parameters : List CallParameter}
    (free : name ∉ answeredNames)
    (plain : special? store (.object id place) "__getattribute__" = none)
    (isThere : store.find id name = some (.member owner name (.method parameters)))
    (ofHost : owner.isStandard = false) (notClass : name ≠ "__class__")
    (own : store.ownAttribute? (.object id place) name = none)
    (part : store.partOf? (.object id place) name = none)
    (late : ∀ object, store.object? place = some object →
      lateObjectAttribute? store (.object id place) object name = none) :
    (getAttribute call (.object id place) name).run store =
      (.ok (.bound (.object id place) (.hostMethod owner name) store.nextMark),
        Change.takeMark.apply store) := by
  have leaves : leavesToInstance (some (.member owner name (.method parameters))) = true := by
    unfold leavesToInstance
    split <;> simp_all
  have isFound := attribute?_of_found free isThere leaves own part
  have bound : store.bindFound (.object id place) (.member owner name (.method parameters)) =
      .bound (.object id place) (.hostMethod owner name) 0 := by
    simp [bindFound, classBound?, ClassId.belongsToClass, ofHost]
  rw [bound] at isFound
  rw [run_getAttribute_found plain (lateAttribute?_object free late) isFound]
  simp [renewed, own]

/-- A function that was put on a class is bound to its receiver anew. -/
theorem run_getAttribute_function {function : Value} (free : name ∉ answeredNames)
    (plain : special? store (.object id place) "__getattribute__" = none)
    (isThere : store.find id name = some (.value function))
    (isFunction : store.isFunction function = true)
    (own : store.ownAttribute? (.object id place) name = none)
    (part : store.partOf? (.object id place) name = none)
    (late : ∀ object, store.object? place = some object →
      lateObjectAttribute? store (.object id place) object name = none) :
    (getAttribute call (.object id place) name).run store =
      (.ok (.bound (.object id place) function store.nextMark), Change.takeMark.apply store) := by
  have isFound := attribute?_of_found free isThere rfl own part
  have bound : store.bindFound (.object id place) (.value function) =
      .bound (.object id place) function 0 := by
    rw [bindFound, if_pos isFunction]
  rw [bound] at isFound
  rw [run_getAttribute_found plain (lateAttribute?_object free late) isFound]
  simp [renewed, own]

end Action

end Deferred
