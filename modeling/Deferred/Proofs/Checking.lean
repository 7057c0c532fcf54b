import Deferred.Generation.Install
import Deferred.Proofs.Generated
import Deferred.Proofs.Renaming

/-!
# Checking plans

What is known of a plan because it was accepted, together with a few things that can be computed
from it, is all that the generation of a command relies on.
-/

namespace Deferred

open Store Action

/-! ## The reference host -/

theorem Value.eq_map_cls {values : List Value} {ids : List ClassId}
    (same : values.map Value.asClass? = ids.map some) : values = ids.map .cls := by
  induction values generalizing ids with
  | nil =>
    cases ids with
    | nil => rfl
    | cons _ _ => cases same
  | cons value rest ih =>
    cases ids with
    | nil => cases same
    | cons id others =>
      simp only [List.map_cons, List.cons.injEq] at same
      obtain ⟨isClass, sameRest⟩ := same
      rw [List.map_cons, ← ih sameRest]
      cases value with
      | cls other => rw [Option.some.inj isClass]
      | _ => cases isClass

namespace Host

/-- Are the types of a host those of the reference host? -/
def hasReferenceTypes (host : Host) : Bool :=
  [(host.world, ClassId.world), (host.entity, ClassId.entity), (host.input, ClassId.input),
    (host.commands, ClassId.commands), (host.entityCommands, ClassId.entityCommands),
    (host.entityAccess, ClassId.entityAccess), (host.command, ClassId.command),
    (host.entityCommand, ClassId.entityCommand)].all (fun entry => entry.1.isClass entry.2) &&
  host.systemParams.map Value.asClass? == referenceParams.map some

/-- A host is the reference host when its types are those of the reference host. -/
theorem eq_reference {host : Host} (same : host.hasReferenceTypes = true) :
    host = Host.reference host.root := by
  simp only [hasReferenceTypes, List.all_cons, List.all_nil, Bool.and_true, Bool.and_eq_true,
    beq_iff_eq] at same
  obtain ⟨⟨world, entity, input, commands, entityCommands, entityAccess, command, entityCommand⟩,
    params⟩ := same
  cases host
  simp only [Host.reference, Host.mk.injEq, true_and]
  exact ⟨Value.eq_cls_of_isClass world, Value.eq_cls_of_isClass entity,
    Value.eq_cls_of_isClass input, Value.eq_cls_of_isClass commands,
    Value.eq_cls_of_isClass entityCommands, Value.eq_cls_of_isClass entityAccess,
    Value.eq_cls_of_isClass command, Value.eq_cls_of_isClass entityCommand,
    Value.eq_map_cls params⟩

end Host

/-! ## An untouched host -/

namespace Store

/-- Is the host untouched?  Nothing that commands rely on was put over or removed, no class known
from the start was declared anew, and nothing is there of classes still to be declared. -/
def isIntact (store : Store) : Bool :=
  let isGiven (id : ClassId) := id.number?.all (· < store.generated.length)
  let isLoose (parent : ClassId) (name : String) := hostClasses.all fun id =>
    !(isKept id name && (({} : Store).ancestors id).contains parent)
  store.removed.isEmpty &&
  store.generated.all (fun entry => !isDeclared entry.1 && isGiven entry.1) &&
  store.attributes.all fun entry => isGiven entry.1 && entry.2.all fun put =>
    isLoose entry.1 put.1 && put.2.classId ≠ ClassId.fieldOptions

theorem intact_of_isIntact {store : Store} (checked : store.isIntact = true) : store.Intact := by
  simp only [isIntact, Bool.and_eq_true, List.all_eq_true, List.isEmpty_iff, Bool.not_eq_true',
    decide_eq_true_eq, Option.all_eq_true] at checked
  obtain ⟨⟨noneRemoved, generated⟩, attributes⟩ := checked
  have put : ∀ {id name value}, store.classAttribute? id name = some value →
      ∃ bound, (id, bound) ∈ store.attributes ∧ (name, value) ∈ bound := by
    intro id name value isPut
    obtain ⟨bound, isOwner, isName⟩ := Option.bind_eq_some_iff.mp isPut
    exact ⟨bound, Entries.mem_of_get? isOwner, Entries.mem_of_get? isName⟩
  refine ⟨fun home name => ?_, fun id isHost name kept parent isAbove => ⟨?_, ?_⟩,
    fun home owner name value isPut => ?_, fun id number isNumber tooLarge => ⟨?_, ?_⟩⟩
  · refine Option.eq_none_iff_forall_ne_some.mpr fun declared isThere => ?_
    have isNew := (generated _ (Entries.mem_of_get? isThere)).1
    cases isNew
  · refine Option.eq_none_iff_forall_ne_some.mpr fun value isPut => ?_
    obtain ⟨bound, isOwner, isName⟩ := put isPut
    have loose := (((attributes _ isOwner).2 _ isName).1 id isHost)
    simp [kept, isAbove] at loose
  · simp [noneRemoved]
  · obtain ⟨bound, isOwner, isName⟩ := put isPut
    exact ((attributes _ isOwner).2 _ isName).2
  · refine Option.eq_none_iff_forall_ne_some.mpr fun declared isThere => ?_
    have given := (generated _ (Entries.mem_of_get? isThere)).2 number isNumber
    exact Nat.not_lt.mpr tooLarge given
  · refine Option.eq_none_iff_forall_ne_some.mpr fun bound isThere => ?_
    have given := (attributes _ (Entries.mem_of_get? isThere)).1 number isNumber
    exact Nat.not_lt.mpr tooLarge given

end Store

/-! ## Plans -/

namespace Code

variable {plan : Plan} {before after : Store}

/-- A plan is built from what is known of the value that is decorated. -/
theorem built_of_planFor {value : Value} {raw : Options.Raw} {forEntity : Bool}
    (runs : (planFor value raw forEntity).run before = (.ok plan, after)) :
    ∃ target, Plan.build before.surroundings target raw forEntity value = .ok plan := by
  simp only [planFor, bind_eq, run_store_bind] at runs
  split at runs
  · rename_i planned isBuilt
    cases runs
    simp only [Bind.bind, Except.bind] at isBuilt
    split at isBuilt
    · cases isBuilt
    · exact ⟨_, isBuilt⟩
  · cases runs

theorem planFor_eq_ok {value : Value} {raw : Options.Raw} {forEntity : Bool}
    (runs : (planFor value raw forEntity).run before = (.ok plan, after)) :
    plan.Accepted ∧ plan.body = value := by
  obtain ⟨target, isBuilt⟩ := built_of_planFor runs
  obtain ⟨accepted, isBody, -⟩ := Plan.accepted_of_build isBuilt
  exact ⟨accepted, isBody⟩

/-- What is left to check of a plan that was accepted: its parameters are apart and in order, its
host is the reference host, and its names stay what they are. -/
structure Checked (plan : Plan) : Prop where
  distinct : (plan.signature.parameters.map Parameter.name).Nodup
  ordered : plan.signature.parameters.Pairwise fun first second =>
    kindRank first.kind ≤ kindRank second.kind
  types : plan.host.hasReferenceTypes = true
  normal : Statement.keepsAll .normal plan.code = true
  inside : Statement.keepsAll (.inside plan.options.recordName) plan.recordBody = true
  quiet : ∀ field ∈ plan.fields, field.name ∈ fieldHooks → staysOnClass field = false

instance (plan : Plan) : Decidable (Checked plan) :=
  decidable_of_iff (_ ∧ _ ∧ _ ∧ _ ∧ _ ∧ _)
    ⟨fun all => ⟨all.1, all.2.1, all.2.2.1, all.2.2.2.1, all.2.2.2.2.1, all.2.2.2.2.2⟩,
      fun checked => ⟨checked.distinct, checked.ordered, checked.types, checked.normal,
        checked.inside, checked.quiet⟩⟩

theorem Sound.of_checked (accepted : plan.Accepted) (checked : Checked plan) : Sound plan where
  accepted := accepted
  distinct := checked.distinct
  ordered := checked.ordered
  host := ⟨_, Host.eq_reference checked.types⟩
  keepsNames := ⟨Statement.renamedAll_of_keeps checked.normal,
    Statement.renamedAll_of_keeps checked.inside⟩
  quiet := checked.quiet

end Code

end Deferred
