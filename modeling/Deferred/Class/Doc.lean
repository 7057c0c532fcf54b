import Deferred.Class

/-!
# What the classes of the host say of themselves

The words that explain the classes of the reference host and of generations, and those of their
methods.
-/

namespace Deferred.ClassId

/-- The words that explain a class. -/
def words : List (ClassId × String) := [
  (world, "Central mutable state container.\n\n" ++
    "    Components are stored per entity, keyed by their type; resources\n" ++
    "    are singletons keyed by their type.\n    "),
  (entityAccess, "Direct, mutable access to one entity of a World."),
  (entity, "Opaque handle addressing one entity inside a World.\n\n" ++
    "    Only the World that allocated an Entity can resolve it.\n    "),
  (input, "Marks the parameter that receives the run-once input value."),
  (resource, "Marks a parameter receiving the resource of type T."),
  (resourceMut, "Marks a parameter receiving the resource of type T, for mutation."),
  (query, "Read/write access to every component of one type."),
  (commands, "Handle that records commands into a queue for later application."),
  (entityCommands, "Handle that queues commands scoped to one entity."),
  (command, "A unit of work applied to the World."),
  (entityCommand, "A unit of work applied to one entity of the World."),
  (commandQueue, "FIFO buffer of commands waiting to be applied."),
  (scopedCommand, "_EntityScoped(command: 'EntityCommand', entity: 'Entity')"),
  (closureCommand, "_Closure(function: 'Callable[[World], object]')"),
  (insertResource, "_InsertResource(resource: 'object')"),
  (insertComponents, "_InsertComponents(components: 'tuple[object, ...]')"),
  (despawn, "_Despawn()"),
  (declared "commandify.ecs.errors" "EntityNotFoundError",
    "The entity does not exist in this World."),
  (declared "commandify.ecs.errors" "MissingResourceError",
    "No resource of the requested type is present."),
  (declared "commandify.ecs.errors" "QueryEntityError",
    "A query could not produce a component for an entity."),
  (declared "commandify.ecs.errors" "SystemParamError",
    "A routine parameter cannot be injected by the host."),
  (pattern, "Destructuring pattern for an input-channel parameter.\n\n" ++
    "    Python signatures cannot unpack tuples, so the names are attached\n" ++
    "    through \x60\x60typing.Annotated\x60\x60::\n\n" ++
    "        pair: Annotated[In[tuple[Entity, int]], Bind(\"entity\", \"n\")]\n    "),
  (sourceMap, "Spans of the tokens of one decorated definition.\n\n" ++
    "    Lookups fall back to the definition line when the source could\n" ++
    "    not be read.\n    "),
  (parameter, "One declared parameter of a decorated function.\n\n" ++
    "    \x60\x60annotation\x60\x60 is resolved and stripped of \x60\x60Annotated\x60\x60; a " ++
    "\x60\x60Bind\x60\x60\n    found in its metadata is kept in \x60\x60binding\x60\x60.\n    "),
  (specification, "Parsed description of the decorated function."),
  (mode, "How the generated apply reaches the original body."),
  (field, "A field of the generated command record."),
  (artifact, "Everything one generation run produced."),
  (options, "Resolved generation options."),
  (capabilities, "Markers and host types exported by one host root."),
  (span, "Source location of the token a diagnostic points at.\n\n" ++
    "    \x60\x60segment\x60\x60 names the token itself: a parameter, an option\n" ++
    "    keyword, or the return annotation.\n    ")]

/-- The words that explain a class, if it has any. -/
def words? (id : ClassId) : Option String :=
  if id.isComponent then some (id.name ++ "(value: object)") else words.lookup id

/-- The words that explain the methods of a class. -/
def methodWords (id : ClassId) : List (String × String) :=
  if id = world then
    [("reserve_entity", "Allocate a new, component-less entity."),
      ("resource", "Return the resource of type \x60\x60kind\x60\x60, raising when absent."),
      ("run_system_once", "Run \x60\x60system\x60\x60 once, injecting its parameters."),
      ("run_system_once_with",
        "Run \x60\x60system\x60\x60 once with \x60\x60value\x60\x60 as its \x60\x60In\x60\x60 parameter.")]
  else if id = entityAccess then
    [("world_scope", "Give \x60\x60function\x60\x60 temporary access to the whole World.")]
  else if id = query then [("single", "Return the only matching component, or raise.")]
  else if id = command then [("apply", "Run the command against the World.")]
  else if id = entityCommand then
    [("apply", "Run the command against one entity."),
      ("with_entity", "Bind this command to an entity, producing a plain Command.")]
  else if id = commandQueue then
    [("push", "Append a command to the end of the queue."),
      ("apply", "Apply and remove every queued command, oldest first.\n\n" ++
        "        Commands pushed while the queue is draining run in the\n" ++
        "        same flush, after everything queued before them.\n        ")]
  else if id = commands then
    [("add", "Queue a command (or a plain callable taking the World)."),
      ("entity", "Return a handle queuing commands for an existing entity."),
      ("spawn_empty", "Reserve a new entity now and return its command handle."),
      ("spawn", "Reserve a new entity and queue insertion of its components."),
      ("insert_resource", "Queue insertion (or replacement) of a resource."),
      ("apply", "Flush this handle's queue into the World.")]
  else if id = entityCommands then
    [("add", "Queue an entity command bound to this entity."),
      ("insert", "Queue insertion of components on this entity.")]
  else if id = capabilities then
    [("command_base", "Base class of generated records (the execution trait)."),
      ("queued_target", "Host type exposing the deferred queue."),
      ("direct_target", "Host type that applies a record immediately.")]
  else []

end Deferred.ClassId
