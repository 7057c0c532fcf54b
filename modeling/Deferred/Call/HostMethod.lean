import Deferred.Call.Injection

/-!
# Methods of the host

What the methods of the host classes do.  The world acts at once, the handles of the queue record
commands, and applying the queue runs every command once, in the order they were pushed, including
those that are pushed while it runs.  Methods reach one another through the attributes of their
receivers, so a method that is put over another is used by the rest of the host too.
-/

namespace Deferred.Action

/-- A method of a part of a value. -/
def methodOfPart (call : Caller) (value : Value) (part method : String) : Action Value := do
  getAttribute call (← getAttribute call value part) method

/-- The name of a value inside a message. -/
def nameInMessage (call : Caller) (value : Value) : Action String := do
  let name ← getAttribute call value "__name__"
  return (← store).textOf name

/-- Do what has no answer. -/
def silently (action : Action Unit) : Action Value := do
  action
  return .absent

/-! ## The world -/

/-- The place and the content of a world. -/
def worldAt (value : Value) : Action (Ref × World) := do
  let store ← store
  match value, store.worldOf? value with
  | .object _ place, some content => return (place, content)
  | _, _ => fail (.noAttribute "_entities")

/-- The number of the live entity that a value is equal to. -/
def liveIndex? (content : World) (entity : Value) : Action (Option Int) := do
  let store ← store
  if store.isKey entity then
    return (content.entities.find? fun handle => store.equal handle.toValue entity).map
      Entity.index
  else fail (.misuse .unhashable)

/-- The class that a value is, as a key. -/
def classKey? (value : Value) : Action (Option ClassId) := do
  if (← store).isKey value then return value.asClass? else fail (.misuse .unhashable)

/-- Reserve the next entity of a world. -/
def reserveEntity (world : Value) : Action Value := do
  let (place, content) ← worldAt world
  let mark := (← store).nextMark
  perform (.reserve place)
  return (content.nextHandle mark).toValue

/-- The number of an entity that has to be live. -/
def liveIndex (content : World) (entity : Value) : Action Int := do
  match ← liveIndex? content entity with
  | some index => return index
  | none => fail (.entityNotFound ((← store).describe entity))

/-- The component of an entity under a class, or nothing. -/
def componentOf (content : World) (entity component : Value) : Action Value := do
  match ← liveIndex? content entity with
  | none => return .absent
  | some index => do
    let id ← classKey? component
    return (id.bind (content.component? index)).getD .absent

/-- Is a component of a class on an entity? -/
def hasComponent (content : World) (entity component : Value) : Action Bool := do
  let index ← liveIndex? content entity
  let id ← classKey? component
  return match index, id with
    | some index, some id => (content.component? index id).isSome
    | _, _ => false

/-- The resource of a class, which has to be there. -/
def resourceOf (call : Caller) (content : World) (kind : Value) : Action Value := do
  match (← classKey? kind).bind content.resource? with
  | some resource => return resource
  | none => fail (.resourceMissing (← nameInMessage call kind))

/-- The methods of a world that change its entities. -/
def entityMethod (call : Caller) (name : String) (arguments : List Value) : Action Value := do
  match name, arguments with
  | "__init__", [.object _ place] => silently (perform (.reset place))
  | "reserve_entity", [world] => reserveEntity world
  | "spawn_empty", [world] => do
    let entity ← send call world "reserve_entity" {}
    call (.ofClass ClassId.entityAccess) (.ofList [world, entity])
  | "spawn", [world, .tuple components _] => do
    let access ← send call world "spawn_empty" {}
    send call access "insert" (.ofList components)
  | "despawn", [world, entity] => do
    let (place, content) ← worldAt world
    match ← if content.entities.isEmpty then done none else liveIndex? content entity with
    | none => return .bool false
    | some index => do
      perform (.despawn place index)
      return .bool true
  | "insert", [world, entity, .tuple components _] => do
    let (place, content) ← worldAt world
    let index ← liveIndex content entity
    silently (forEach components fun component => perform (.insert place index component))
  | _, _ => fail (.misuse .arguments)

/-- The other methods of a world. -/
def worldMethod (call : Caller) (name : String) (arguments : List Value) : Action Value := do
  match name, arguments with
  | "contains_entity", [world, entity] => do
    let (_, content) ← worldAt world
    return .bool (← liveIndex? content entity).isSome
  | "entities", [world] => do
    let (_, content) ← worldAt world
    allocate ClassId.listIterator (.iteration (.items (content.entities.map Entity.toValue)))
  | "entity_mut", [world, entity] => do
    let (_, content) ← worldAt world
    let _ ← liveIndex content entity
    call (.ofClass ClassId.entityAccess) (.ofList [world, entity])
  | "get", [world, entity, component] => do
    let (_, content) ← worldAt world
    componentOf content entity component
  | "contains", [world, entity, component] => do
    let (_, content) ← worldAt world
    return .bool (← hasComponent content entity component)
  | "query", [world, component] =>
    call (.ofClass ClassId.query) (.ofList [world, component])
  | "insert_resource", [world, resource] => do
    let (place, _) ← worldAt world
    silently (perform (.insertResource place resource))
  | "resource", [world, kind] => do
    let (_, content) ← worldAt world
    resourceOf call content kind
  | "get_resource", [world, kind] => do
    let (_, content) ← worldAt world
    return ((← classKey? kind).bind content.resource?).getD .absent
  | "remove_resource", [world, kind] => do
    let (place, content) ← worldAt world
    match ← if content.resources.isEmpty then done none else classKey? kind with
    | none => return .absent
    | some id => do
      perform (.removeResource place id)
      return (content.resource? id).getD .absent
  | "run_system_once", [world, system] => runSystem call world system none
  | "run_system_once_with", [world, system, value] =>
    match value with
    | .noInput => fail .inputRequired
    | value => runSystem call world system (some value)
  | name, arguments => entityMethod call name arguments

/-- The methods of a handle that acts on one entity at once. -/
def accessMethod (call : Caller) (name : String) (arguments : List Value) : Action Value := do
  match name, arguments with
  | "__init__", [access, world, entity] => silently do
    setAttribute access "_world" world
    setAttribute access "_entity" entity
  | "id", [access] => getAttribute call access "_entity"
  | "insert", [access, .tuple components _] => do
    let method ← methodOfPart call access "_world" "insert"
    let entity ← getAttribute call access "_entity"
    let _ ← call method (.ofList (entity :: components))
    return access
  | "get", [access, component] => do
    let method ← methodOfPart call access "_world" "get"
    call method (.ofList [← getAttribute call access "_entity", component])
  | "contains", [access, component] => do
    let method ← methodOfPart call access "_world" "contains"
    call method (.ofList [← getAttribute call access "_entity", component])
  | "world_scope", [access, function] => do
    call function (.ofList [← getAttribute call access "_world"])
  | _, _ => fail (.misuse .arguments)

/-- The methods of a query. -/
def queryMethod (machine : Machine) (name : String) (arguments : List Value) : Action Value := do
  let call := machine.call
  match name, arguments with
  | "__init__", [query, world, component] => silently do
    setAttribute query "_world" world
    setAttribute query "_component" component
  | "get", [query, entity] => do
    let method ← methodOfPart call query "_world" "get"
    match ← call method (.ofList [entity, ← getAttribute call query "_component"]) with
    | .absent => do
      let shown := (← store).describe entity
      let name ← nameInMessage call (← getAttribute call query "_component")
      fail (.componentMissing shown name)
    | value => return value
  | "items", [query] => allocate ClassId.generator (.iteration (.query query))
  | "__iter__", [query] => do
    let pairs ← iterate machine (← send call query "items" {})
    allocate ClassId.generator (.iteration (.seconds pairs))
  | "__len__", [query] => do
    let pairs ← itemsOf machine (← send call query "items" {})
    fresh (.int pairs.length)
  | "single", [query] => do
    let pairs ← iterate machine (← send call query "items" {})
    let seconds ← allocate ClassId.generator (.iteration (.seconds pairs))
    match ← itemsOf machine seconds with
    | [value] => return value
    | found => do
      let name ← nameInMessage call (← getAttribute call query "_component")
      fail (.notSingle name found.length)
  | _, _ => fail (.misuse .arguments)

/-! ## The queue -/

/-- The place and the content of a queue. -/
def queueAt (value : Value) : Action (Ref × List Value) := do
  let store ← store
  match value, store.pendingOf? value with
  | .object _ place, some pending => return (place, pending)
  | _, _ => fail (.noAttribute "_commands")

/-- Apply the commands of a queue until none is left, at most `bound` of them.  A command is out of
the queue before it is started. -/
def drain (call : Caller) (queue world : Value) : Nat → Action Unit
  | 0 => fail .outOfFuel
  | bound + 1 => do
    match ← queueAt queue with
    | (_, []) => done ()
    | (place, command :: _) => do
      perform (.pop place)
      let _ ← send call command "apply" (.ofList [world])
      drain call queue world bound

/-- The methods of a queue. -/
def queueMethod (machine : Machine) (name : String) (arguments : List Value) : Action Value := do
  match name, arguments with
  | "__init__", [.object _ place] => silently (perform (.reset place))
  | "push", [queue, command] => do
    let (place, _) ← queueAt queue
    silently (perform (.push place command))
  | "apply", [queue, world] => silently (drain machine.call queue world machine.bound)
  | "__len__", [queue] => do
    let (_, pending) ← queueAt queue
    fresh (.int pending.length)
  | _, _ => fail (.misuse .arguments)

/-- Make a command of the host from named parts. -/
def newCommand (call : Caller) (id : ClassId) (parts : List (String × Value)) : Action Value :=
  call (.ofClass id) { keywords := parts }

/-- What is recorded for a command: itself, or a command that calls a function. -/
def asCommand (call : Caller) (command : Value) : Action Value := do
  let store ← store
  if store.isInstance command ClassId.command then return command
  else if store.isCallable command then
    newCommand call ClassId.closureCommand [("function", command)]
  else fail (.notACommand (store.className command.classId))

/-- The methods of a handle of the queue. -/
def commandsMethod (call : Caller) (name : String) (arguments : List Value) : Action Value := do
  match name, arguments with
  | "__init__", [handle, queue, world] => silently do
    setAttribute handle "_queue" queue
    setAttribute handle "_world" world
  | "add", [handle, command] => do
    let recorded ← asCommand call command
    let push ← methodOfPart call handle "_queue" "push"
    let _ ← call push (.ofList [recorded])
    return .absent
  | "entity", [handle, entity] =>
    call (.ofClass ClassId.entityCommands) (.ofList [handle, entity])
  | "spawn_empty", [handle] => do
    let reserve ← methodOfPart call handle "_world" "reserve_entity"
    let entity ← call reserve {}
    call (.ofClass ClassId.entityCommands) (.ofList [handle, entity])
  | "spawn", [handle, .tuple components _] => do
    let spawned ← send call handle "spawn_empty" {}
    let _ ← send call spawned "insert" (.ofList components)
    return spawned
  | "insert_resource", [handle, resource] => do
    let add ← getAttribute call handle "add"
    let command ← newCommand call ClassId.insertResource [("resource", resource)]
    let _ ← call add (.ofList [command])
    return .absent
  | "apply", [handle, world] => do
    let apply ← methodOfPart call handle "_queue" "apply"
    let _ ← call apply (.ofList [world])
    return .absent
  | _, _ => fail (.misuse .arguments)

/-- The methods of a handle that records commands for one entity. -/
def entityCommandsMethod (call : Caller) (name : String) (arguments : List Value) :
    Action Value := do
  match name, arguments with
  | "__init__", [handle, commands, entity] => silently do
    setAttribute handle "_commands" commands
    setAttribute handle "_entity" entity
  | "id", [handle] => getAttribute call handle "_entity"
  | "add", [handle, command] => do
    let add ← methodOfPart call handle "_commands" "add"
    let bind ← getAttribute call command "with_entity"
    let bound ← call bind (.ofList [← getAttribute call handle "_entity"])
    let _ ← call add (.ofList [bound])
    return .absent
  | "insert", [handle, .tuple components mark] => do
    if components.isEmpty then return handle
    else
      let add ← getAttribute call handle "add"
      let command ← newCommand call ClassId.insertComponents
        [("components", .tuple components mark)]
      let _ ← call add (.ofList [command])
      return handle
  | "despawn", [handle] => do
    let add ← getAttribute call handle "add"
    let _ ← call add (.ofList [← newCommand call ClassId.despawn []])
    return .absent
  | _, _ => fail (.misuse .arguments)

/-! ## Commands -/

/-- The function that a command of a script calls. -/
def scriptedFunction (command : Value) : Action Value := do
  match (← store).objectOf? command with
  | some (.scripted function) => return function
  | _ => fail (.noAttribute "apply")

/-- Apply a command that does its work on the world. -/
def applyCommand (call : Caller) (owner : ClassId) (command world : Value) : Action Value := do
  if owner = ClassId.scopedCommand then
    let apply ← methodOfPart call command "command" "apply"
    call apply (.ofList [← getAttribute call command "entity", world])
  else if owner = ClassId.closureCommand then
    call (← getAttribute call command "function") (.ofList [world])
  else if owner = ClassId.insertResource then
    let insert ← getAttribute call world "insert_resource"
    let _ ← call insert (.ofList [← getAttribute call command "resource"])
    return .absent
  else if owner = ClassId.scriptCommand then
    call (← scriptedFunction command) (.ofList [world])
  else return .absent

/-- Apply a command that does its work on an entity. -/
def applyEntityCommand (machine : Machine) (owner : ClassId) (command entity world : Value) :
    Action Value := do
  let call := machine.call
  if owner = ClassId.insertComponents then
    let insert ← getAttribute call world "insert"
    let components ← itemsOf machine (← getAttribute call command "components")
    let _ ← call insert (.ofList (entity :: components))
    return .absent
  else if owner = ClassId.despawn then
    let _ ← send call world "despawn" (.ofList [entity])
    return .absent
  else if owner = ClassId.scriptEntityCommand then
    call (← scriptedFunction command) (.ofList [entity, world])
  else return .absent

/-- The methods of commands. -/
def commandMethod (machine : Machine) (owner : ClassId) (name : String) (arguments : List Value) :
    Action Value :=
  match name, arguments with
  | "apply", [command, world] => applyCommand machine.call owner command world
  | "apply", [command, entity, world] => applyEntityCommand machine owner command entity world
  | "with_entity", [command, entity] =>
    newCommand machine.call ClassId.scopedCommand [("command", command), ("entity", entity)]
  | _, _ => fail (.misuse .arguments)

/-- Call a method of a host class; the receiver is the first of the arguments. -/
def hostMethod (machine : Machine) (owner : ClassId) (name : String) (arguments : List Value) :
    Action Value :=
  if owner = ClassId.world then worldMethod machine.call name arguments
  else if owner = ClassId.entityAccess then accessMethod machine.call name arguments
  else if owner = ClassId.query then queryMethod machine name arguments
  else if owner = ClassId.commandQueue then queueMethod machine name arguments
  else if owner = ClassId.commands then commandsMethod machine.call name arguments
  else if owner = ClassId.entityCommands then entityCommandsMethod machine.call name arguments
  else commandMethod machine owner name arguments

end Deferred.Action
