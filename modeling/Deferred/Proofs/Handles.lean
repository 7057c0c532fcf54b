import Deferred.Call.Injection
import Deferred.Proofs.Calling
import Deferred.Proofs.Construction
import Deferred.Proofs.Queue

/-!
# Handles of the queue

The handle that a routine is given is made for it, with a queue of its own: both are new objects,
the queue is empty, and the handle keeps nothing but the queue and the world.  What it is sent goes
through the methods of the host: applying it applies its queue, so nothing waits there afterwards.
-/

namespace Deferred

open Store Action

variable {before between after store : Store} {call : Caller} {bound : Nat} {handle queue : Ref}
  {world answer : Value}

/-- A handle stands at one place and the queue that it keeps at another one, and neither of them has
hidden the method that applies it. -/
structure Store.Records (store : Store) (handle queue : Ref) : Prop where
  keeps : store.ownAttribute? (.object ClassId.commands handle) "_queue" =
    some (.object ClassId.commandQueue queue)
  plain : store.object? handle = some .plain
  waits : ∃ pending, store.waiting? queue = some pending
  unhidden : store.ownAttribute? (.object ClassId.commands handle) "apply" = none ∧
    store.ownAttribute? (.object ClassId.commandQueue queue) "apply" = none

namespace Store.Records

theorem of_grows (records : before.Records handle queue) (grows : before.Grows after) :
    after.Records handle queue where
  keeps := by
    rw [grows.ownAttribute?_eq (lt_size_of_object? records.plain)]
    exact records.keeps
  plain := grows.object? records.plain
  waits := by
    obtain ⟨pending, waits⟩ := records.waits
    exact ⟨pending, waiting?_eq_some.mpr (grows.object? (waiting?_eq_some.mp waits))⟩
  unhidden := by
    obtain ⟨pending, waits⟩ := records.waits
    rw [grows.ownAttribute?_eq (lt_size_of_object? records.plain),
      grows.ownAttribute?_eq (lt_size_of_object? (waiting?_eq_some.mp waits))]
    exact records.unhidden

end Store.Records

namespace Action

/-! ## Applying a handle -/

/-- A special method is put on no class of an untouched host. -/
theorem special?_of_intact {value : Value} {owner : ClassId} {name : String}
    {member : Deferred.Member} (intact : store.Intact) (isHost : value.classId ∈ hostClasses)
    (isMember : ({} : Store).find value.classId name = some (.member owner name member)) :
    special? store value name = none :=
  special?_of_member
    ((intact.find_eq isHost (by rw [isKept, isMember]; rfl)).trans isMember)

/-- A class of the host has no say in a name that it did not have from the start. -/
theorem leavesToInstance_of_unknown {id : ClassId} {name : String} (intact : store.Intact)
    (isHost : id ∈ hostClasses) (unknown : ({} : Store).find id name = none) :
    leavesToInstance (store.find id name) = true := by
  cases isFound : store.find id name with
  | none => rfl
  | some found =>
    obtain ⟨value, rfl⟩ := intact.eq_value_of_find (isDeclared_of_mem_hostClasses isHost)
      (fun _ => isDeclared_of_mem_ancestors isHost) unknown isFound
    rfl

/-- The host has one method that applies a handle and one that applies a queue. -/
theorem find_apply {id : ClassId} (isEither : id = ClassId.commands ∨ id = ClassId.commandQueue) :
    id ∈ hostClasses ∧
      ({} : Store).find id "apply" = some (.member id "apply" (.method [.plain "world"])) ∧
      ({} : Store).find id "__getattribute__" =
        some (.member ClassId.object "__getattribute__" .other) := by
  rcases isEither with rfl | rfl <;> exact ⟨by decide, rfl, rfl⟩

/-- Where a handle or a queue is applied, the host does it. -/
theorem exists_hostMethod_of_send {id : ClassId} {place : Ref} {object : Object}
    (isEither : id = ClassId.commands ∨ id = ClassId.commandQueue) (intact : before.Intact)
    (stands : before.object? place = some object)
    (partless : object = .plain ∨ ∃ pending, object = .queue pending)
    (own : before.ownAttribute? (.object id place) "apply" = none)
    (runs : (send (Action.machine bound).call (.object id place) "apply" (.ofList [world])).run
      before = (.ok answer, after)) :
    ∃ depth, (hostMethod (Action.machine depth) id "apply" [.object id place, world]).run
      (Change.takeMark.apply before) = (.ok answer, after) := by
  obtain ⟨isHost, isMember, isRoot⟩ := find_apply isEither
  have isThere : before.find id "apply" = some (.member id "apply" (.method [.plain "world"])) :=
    (intact.find_eq isHost (by rw [isKept, isMember]; rfl)).trans isMember
  have reads : (getAttribute (Action.machine bound).call (.object id place) "apply").run before =
      (.ok (.bound (.object id place) (.hostMethod id "apply") before.nextMark),
        Change.takeMark.apply before) := by
    refine run_getAttribute_member (by decide) (special?_of_intact intact isHost isRoot) isThere
      (by rcases isEither with rfl | rfl <;> rfl) (by decide) own ?_ ?_
    · rcases partless with rfl | ⟨pending, rfl⟩ <;> simp [partOf?, objectOf?, stands]
    · intro found isFound
      obtain rfl := Option.some.inj (stands.symm.trans isFound)
      rcases partless with rfl | ⟨pending, rfl⟩ <;> rfl
  rw [send, bind_eq, run_bind_of_ok reads] at runs
  obtain ⟨outer, -, binds⟩ := exists_callStep runs
  rw [callStep_bound] at binds
  obtain ⟨inner, -, calls⟩ := exists_callStep binds
  rw [callStep_hostMethod] at calls
  refine ⟨inner, ?_⟩
  have takes : id.members.lookup "apply" = some (.method (["world"].map CallParameter.plain)) := by
    rcases isEither with rfl | rfl <;> rfl
  have acts : actsItself id "apply" = true := by rcases isEither with rfl | rfl <;> rfl
  exact (run_callMember takes acts rfl).symm.trans calls

theorem hostMethod_commands (machine : Machine) (name : String) (arguments : List Value) :
    hostMethod machine ClassId.commands name arguments =
      commandsMethod machine.call name arguments := rfl

theorem hostMethod_commandQueue (machine : Machine) (name : String) (arguments : List Value) :
    hostMethod machine ClassId.commandQueue name arguments = queueMethod machine name arguments :=
  rfl

theorem commandsMethod_apply (receiver world : Value) :
    commandsMethod call "apply" [receiver, world] =
      (getAttribute call receiver "_queue").bind fun part =>
        (send call part "apply" (.ofList [world])).bind fun _ => done .absent := by
  simp only [commandsMethod, methodOfPart, send, bind_eq, bind_assoc, pure_eq_done]

/-- The queue that a handle keeps is read as it is. -/
theorem run_getAttribute_queue (intact : store.Intact) (records : store.Records handle queue) :
    (getAttribute call (.object ClassId.commands handle) "_queue").run store =
      (.ok (.object ClassId.commandQueue queue), store) :=
  run_getAttribute_own
    (special?_of_intact intact (find_apply (.inl rfl)).1 (find_apply (.inl rfl)).2.2)
    (leavesToInstance_of_unknown intact (find_apply (.inl rfl)).1 rfl) records.keeps

/-- Applying a handle applies the queue that it keeps. -/
theorem exists_run_drain (intact : before.Intact) (records : before.Records handle queue)
    (runs : (send (Action.machine bound).call (.object ClassId.commands handle) "apply"
      (.ofList [world])).run before = (.ok answer, after)) :
    ∃ depth, (drain (Action.machine depth).call (.object ClassId.commandQueue queue) world
        depth).run (Change.takeMark.apply (Change.takeMark.apply before)) = (.ok (), after) := by
  obtain ⟨outer, applies⟩ := exists_hostMethod_of_send (.inl rfl) intact records.plain (.inl rfl)
    records.unhidden.1 runs
  have grown := Grows.takeMark before
  have intactNow := intact.of_grows grown
  have recordsNow := records.of_grows grown
  obtain ⟨pending, waits⟩ := recordsNow.waits
  rw [hostMethod_commands, commandsMethod_apply,
    run_bind_of_ok (run_getAttribute_queue intactNow recordsNow), run_bind_eq_ok] at applies
  obtain ⟨flushed, between, flushes, ends⟩ := applies
  cases ends
  obtain ⟨depth, drains⟩ := exists_hostMethod_of_send (.inr rfl) intactNow
    (waiting?_eq_some.mp waits) (.inr ⟨pending, rfl⟩) recordsNow.unhidden.2 flushes
  rw [hostMethod_commandQueue, queueMethod_apply, run_silently_eq_ok] at drains
  exact ⟨depth, drains.1⟩

/-- Nothing waits in the queue of a handle that was applied. -/
theorem waiting?_of_run_apply (intact : before.Intact) (records : before.Records handle queue)
    (runs : (send (Action.machine bound).call (.object ClassId.commands handle) "apply"
      (.ofList [world])).run before = (.ok answer, after)) :
    after.waiting? queue = some [] := by
  obtain ⟨depth, drains⟩ := exists_run_drain intact records runs
  have grown := (Grows.takeMark before).trans (Grows.takeMark _)
  obtain ⟨pending, waits⟩ := (records.of_grows grown).waits
  exact waiting?_of_run_drain waits drains

/-! ## Making a handle -/

/-- What a handle keeps itself. -/
def handleParts (queue : Ref) (world : Value) : Bindings :=
  [("_queue", .object ClassId.commandQueue queue), ("_world", world)]

end Action

end Deferred
