import Deferred.Proofs.Routing

/-!
# The same command under other names

The names of the record class and of the extension class are chosen by the user.  What a command does
does not depend on them: records of both commands that hold the same values are applied alike, and
so are the public routines called.  The one exception is a name that hides the test for instances,
which the code that hands an outcome on looks up under its own name.
-/

namespace Deferred

open Store Action

/-- The same plan, with other names for the record class and the extension class. -/
def Plan.renamed (plan : Plan) (recordName extensionName : String) : Plan :=
  { plan with options := { plan.options with recordName, extensionName } }

/-- Other names are accepted unless they are kept for generated code. -/
theorem Plan.Accepted.renamed {plan : Plan} (accepted : plan.Accepted)
    {recordName extensionName : String} (plainRecord : Text.isReserved recordName = false)
    (plainExtension : Text.isReserved extensionName = false) :
    (plan.renamed recordName extensionName).Accepted where
  sorts := accepted.sorts
  attributes := accepted.attributes
  hasEntity := accepted.hasEntity
  mode := accepted.mode
  routing := accepted.routing
  recordName := plainRecord
  extensionName := plainExtension

namespace Code

variable {plan : Plan} {recordName extensionName owner : String} {first second : Generation}
  {store later : Store} {place elsewhere : Ref} {arguments : Arguments} {locals : Bindings}

/-- Where no outcome is routed, applying a record is calling the routine. -/
theorem exists_apply_unrouted (depth : Nat) (made : WasGenerated plan first store)
    (follows : store.Follows later) (isExclusive : plan.mode = .exclusive)
    (unrouted : plan.isRouted = false)
    (holds : HoldsValues later first.recordClass place (plan.fields.map Field.name)
      (meant locals)) :
    ∃ apply, later.find first.recordClass "apply" = some (.value apply) ∧
      ((Action.machine (depth + 1)).call apply
          (applyArguments plan (.object first.recordClass place) locals)).run later =
        (appliedTo plan (Action.machine depth) plan.body .absent locals).run later := by
  obtain ⟨body, space, own, carries, sound, intact, -, isBody⟩ := made.exists_carries
  obtain ⟨rfl, -⟩ := isBody unrouted
  have carriesLater := carries.of_follows follows
  exact exists_apply depth _ _ sound.accepted isExclusive carriesLater.isAlias.record
    (follows.keeps.intact intact) carriesLater.binds (by simp [unrouted]) holds

/-- The names of a command make no difference to what it does, where its routine takes the world.
Two commands for one routine, under different names, leave the same store and give the same answer,
when records that hold the same values are applied and when the public routines are called: always
where no outcome is routed, and else for every outcome, unless a name hides the test for
instances. -/
theorem names_leave_command_alike (depth : Nat) (made : WasGenerated plan first store)
    (madeToo : WasGenerated (plan.renamed recordName extensionName) second store)
    (isExclusive : plan.mode = .exclusive)
    (binds : (arguments.bindTo owner
      (plan.signature.parameters.map declaredParameter)).run store = (.ok locals, later))
    (holds : HoldsValues later first.recordClass place (plan.fields.map Field.name) (meant locals))
    (holdsToo : HoldsValues later second.recordClass elsewhere (plan.fields.map Field.name)
      (meant locals)) :
    (plan.isRouted = false → first.routine = second.routine ∧
      ∃ apply applyToo, later.find first.recordClass "apply" = some (.value apply) ∧
        later.find second.recordClass "apply" = some (.value applyToo) ∧
        ((Action.machine (depth + 1)).call apply
            (applyArguments plan (.object first.recordClass place) locals)).run later =
          ((Action.machine (depth + 1)).call applyToo
            (applyArguments plan (.object second.recordClass elsewhere) locals)).run later) ∧
    (plan.isRouted = true →
      (∀ name ∈ [plan.options.recordName, plan.options.extensionName, recordName, extensionName],
        name ≠ "isinstance") →
      ∃ apply applyToo, later.find first.recordClass "apply" = some (.value apply) ∧
        later.find second.recordClass "apply" = some (.value applyToo) ∧
        ∀ {id : ClassId} {part : String} {content outcome run : Value} {between reached : Store},
          Value.Branch content id part outcome →
          ((Action.machine (depth + 4)).call plan.body (plan.directArguments
            (meant locals (contextName plan)) (meant locals (targetName plan)) (meant locals))).run
              later = (.ok outcome, between) →
          later.Follows between →
          Runs (Action.machine (depth + 3)).call (meant locals (contextName plan)) run between
            reached →
          ((Action.machine (depth + 5)).call apply
              (applyArguments plan (.object first.recordClass place) locals)).run later =
            ((Action.machine (depth + 5)).call applyToo
              (applyArguments plan (.object second.recordClass elsewhere) locals)).run later ∧
          ((Action.machine (depth + 5)).call first.routine arguments).run store =
            ((Action.machine (depth + 5)).call second.routine arguments).run store) := by
  refine ⟨fun unrouted => ?_, fun isRouted unhidden => ?_⟩
  · obtain ⟨-, -, grows⟩ := locals_of_binds made.sound.accepted binds
    obtain ⟨_, _, _, -, -, -, -, isRoutine⟩ := made.exists_carries
    obtain ⟨_, _, _, -, -, -, -, isRoutineToo⟩ := madeToo.exists_carries
    obtain ⟨apply, isApply, applies⟩ :=
      exists_apply_unrouted depth made (.of_grows grows) isExclusive unrouted holds
    obtain ⟨applyToo, isApplyToo, appliesToo⟩ :=
      exists_apply_unrouted depth madeToo (.of_grows grows) isExclusive unrouted holdsToo
    exact ⟨(isRoutine unrouted).2.trans (isRoutineToo unrouted).2.symm,
      apply, applyToo, isApply, isApplyToo, applies.trans appliesToo.symm⟩
  · simp only [List.mem_cons, List.not_mem_nil, or_false, forall_eq_or_imp, forall_eq] at unhidden
    obtain ⟨record, extension, recordToo, extensionToo⟩ := unhidden
    obtain ⟨apply, isApply, paths⟩ :=
      outcome_paths depth made isExclusive isRouted ⟨record, extension⟩ binds holds
    obtain ⟨applyToo, isApplyToo, pathsToo⟩ := outcome_paths depth madeToo isExclusive
      isRouted ⟨recordToo, extensionToo⟩ binds holdsToo
    refine ⟨apply, applyToo, isApply, isApplyToo, ?_⟩
    intro id part content outcome run between reached branch calls follows asks
    obtain ⟨applies, answers⟩ := paths branch calls follows asks
    obtain ⟨appliesToo, answersToo⟩ := pathsToo branch calls follows asks
    exact ⟨applies.trans appliesToo.symm, answers.trans answersToo.symm⟩

end Code

end Deferred
