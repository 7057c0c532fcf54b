import Deferred.Call.Invoke
import Deferred.Proofs.Arguments
import Deferred.Proofs.Reading

/-!
# Calls of the host

Calling a bound method calls the method with its receiver first; calling a method of the host class
that brings it does what the host does.
-/

namespace Deferred.Action

open Store

variable {store : Store} {machine : Machine} {owner : ClassId} {name : String}

@[simp] theorem invoke_succ (bound : Nat) :
    invoke (bound + 1) = callStep { call := invoke bound, bound } := rfl

/-- A call on a machine that comes to an answer is one step with calls inside it one level lower. -/
theorem exists_callStep {bound : Nat} {target : Value} {arguments : Arguments} {before after : Store}
    {answer : Value}
    (runs : ((Action.machine bound).call target arguments).run before = (.ok answer, after)) :
    ∃ depth, bound = depth + 1 ∧
      (callStep (Action.machine depth) target arguments).run before = (.ok answer, after) := by
  cases bound with
  | zero => cases runs
  | succ depth => exact ⟨depth, rfl, runs⟩

theorem callStep_bound (receiver function : Value) (mark : Mark) (arguments : Arguments) :
    callStep machine (.bound receiver function mark) arguments =
      machine.call function { arguments with positional := receiver :: arguments.positional } := rfl

theorem callStep_hostMethod (arguments : Arguments) :
    callStep machine (.hostMethod owner name) arguments = callMember machine owner name arguments :=
  rfl

theorem callStep_builtin (arguments : Arguments) :
    callStep machine (.builtin name) arguments = callStandard machine name arguments := rfl

/-- Does a class do itself what its method says, in the way of the classes of the host? -/
def actsItself (owner : ClassId) (name : String) : Bool :=
  !owner.isStandard && owner ≠ ClassId.abstractMeta && (owner.comparedMembers.lookup name).isNone &&
    owner ≠ ClassId.outcome && owner ≠ ClassId.capabilities && owner ≠ ClassId.sourceMap &&
    !owner.isComponent && owner ≠ ClassId.entity

/-- A method of the host is called with the values that its parameters take by position. -/
theorem run_callMember {names : List String} {receiver : Value} {given : List Value}
    (isMethod : owner.members.lookup name = some (.method (names.map CallParameter.plain)))
    (acts : actsItself owner name = true) (asMany : names.length = given.length) :
    (callMember machine owner name (.ofList (receiver :: given))).run store =
      (hostMethod machine owner name (receiver :: given)).run store := by
  simp only [actsItself, Bool.and_eq_true, Bool.not_eq_true', decide_eq_true_eq,
    Option.isNone_iff_eq_none] at acts
  obtain ⟨⟨⟨⟨⟨⟨⟨ofHost, notMeta⟩, uncompared⟩, notOutcome⟩, notCapabilities⟩, notMap⟩,
    notComponent⟩, notEntity⟩ := acts
  have takes : (valuesFor (owner.name ++ "." ++ name)
      (CallParameter.plain "self" :: names.map CallParameter.plain)
      (.ofList (receiver :: given))).run store = (.ok (receiver :: given), store) :=
    run_valuesFor_plain ("self" :: names) _ (by simp [asMany])
  simp only [callMember, bind_eq, run_store_bind, isMethod, notMeta, if_false, ofHost,
    Bool.false_eq_true]
  rw [callHostMethod, bind_eq, run_bind_of_ok takes]
  simp only [uncompared, notOutcome, notCapabilities, notMap, notComponent, notEntity, if_false,
    Option.isSome_none, Bool.false_eq_true]

end Deferred.Action
