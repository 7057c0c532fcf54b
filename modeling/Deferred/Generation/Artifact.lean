import Deferred.Generation.Assemble

/-!
# A generation as an object

Scripts can look at what was generated for a routine: an object that holds the generation together
with what it was made from.  Its parts are objects made of nothing but attributes, and two kinds of
parts are members of an enumeration, of which there is one of each name.
-/

namespace Deferred.Action

/-- A member of an enumeration. -/
structure Member where
  name : String
  value : Value
  object : Object := .plain

/-- The member of an enumeration with a name; all members are made the first time. -/
def memberNamed (id : ClassId) (members : List Member) (name : String) : Action Value := do
  match (← store).classAttribute? id name with
  | some member => return member
  | none =>
    forEach members fun member => do
      let made ← allocate id member.object
        [("name", .ofText member.name), ("value", member.value)]
      perform (.setClassAttribute id member.name made)
    orFail (.noAttribute name) ((← store).classAttribute? id name)

/-- The ways in which arguments reach parameters. -/
def kindMembers : List Member :=
  let names := ["POSITIONAL_ONLY", "POSITIONAL_OR_KEYWORD", "VAR_POSITIONAL", "KEYWORD_ONLY",
    "VAR_KEYWORD"]
  (names.zipIdx).map fun (name, index) =>
    { name, value := .ofInt index, object := .extended (.ofInt index) }

/-- The kind of a parameter. -/
def newKind (kind : ParameterKind) : Action Value :=
  memberNamed ClassId.parameterKind kindMembers (match kind with
    | .positionalOnly => "POSITIONAL_ONLY"
    | .positional => "POSITIONAL_OR_KEYWORD"
    | .variadic => "VAR_POSITIONAL"
    | .keywordOnly => "KEYWORD_ONLY"
    | .keywordVariadic => "VAR_KEYWORD")

/-- The mode of a command. -/
def newMode (mode : Mode) : Action Value :=
  memberNamed ClassId.mode
    [{ name := "EXCLUSIVE", value := .ofText Mode.exclusive.name },
      { name := "SCHEDULED", value := .ofText Mode.scheduled.name }]
    (match mode with
      | .exclusive => "EXCLUSIVE"
      | .scheduled => "SCHEDULED")

/-- What stands for an annotation or a default that is not there. -/
def orMissing (value : Option Value) : Value := value.getD (.ofClass ClassId.missing)

/-- A value or absence. -/
def orAbsent (value : Option Value) : Value := value.getD .absent

/-- Parameters as objects. -/
def newParameters : List Parameter → Action (List Value)
  | [] => return []
  | parameter :: rest => do
    let kind ← newKind parameter.kind
    let made ← allocate ClassId.parameter .plain
      [("name", .ofText parameter.name), ("annotation", orMissing parameter.hint), ("kind", kind),
        ("default", orMissing parameter.default),
        ("binding", orAbsent (parameter.pattern.map (.pattern · 0)))]
    return made :: (← newParameters rest)

/-- A place as an object. -/
def newPlace (span : Span) : Action Value :=
  newSpan (.ofText span.file) (.ofInt span.line) (.ofInt span.column) (.ofText span.segment)

/-- Places by name, as the entries of a table. -/
def newPlaces : List (String × Span) → Action (List (Value × Value))
  | [] => return []
  | (name, span) :: rest => do
    let place ← newPlace span
    return (.ofText name, place) :: (← newPlaces rest)

/-- The places of a definition as an object.  Where the text could not be read back, its tables are
views of an empty one. -/
def newSourceMap (isRead : Bool) (spans : SourceMap) : Action Value := do
  let table (places : List (String × Span)) : Action Value := do
    let entries ← newPlaces places
    if isRead then newDict entries else newView entries
  let parameters ← table spans.parameters
  let returns ← match spans.returns with
    | some span => newPlace span
    | none => done .absent
  let keywords ← table spans.keywords
  allocate ClassId.sourceMap .plain
    [("file", .ofText spans.file), ("line", .ofInt spans.line), ("parameters", parameters),
      ("returns", returns), ("keywords", keywords)]

/-- Was the text of a routine read back? -/
def isReadBack (store : Store) (routine : Value) : Bool :=
  match store.functionOf? routine with
  | some function =>
    match store.routineOf routine function with
    | .ok described => described.source.isReadable
    | .error _ => false
  | none => false

/-- A signature as an object. -/
def newSpecification (body : Value) (signature : Signature) : Action Value := do
  let isRead := isReadBack (← store) body
  let parameters ← newParameters signature.parameters
  let spans ← newSourceMap isRead signature.spans
  allocate ClassId.specification .plain
    [("name", .ofText signature.name), ("qualname", .ofText signature.qualname),
      ("module", .ofText signature.home), ("body", body), ("parameters", .tuple parameters 0),
      ("spans", spans), ("generics", .tuple signature.generics 0),
      ("chainable", .bool signature.chainable),
      ("outcome", orAbsent (signature.outcome.map fun (value, error) => .tuple [value, error] 0)),
      ("doc", orAbsent (signature.doc.map .ofText))]

/-- Options as an object. -/
def newOptions (options : Options) : Action Value :=
  allocate ClassId.options .plain
    [("suppress_extension_trait", .bool options.noExtension),
      ("suppress_context_impl", .bool options.noDirect),
      ("record_name", .ofText options.recordName),
      ("extension_trait_name", .ofText options.extensionName),
      ("host_root", match options.root with
        | .path written => .ofText written
        | .module found => .module found),
      ("method_name", .ofText options.methodName),
      ("ok_handler", orAbsent options.onSuccess), ("err_handler", orAbsent options.onFailure)]

/-- A host as an object. -/
def newCapabilities (host : Host) : Action Value :=
  allocate ClassId.capabilities .plain
    [("root", .ofText host.root), ("world", host.world), ("entity", host.entity),
      ("input_marker", host.input), ("commands", host.commands),
      ("entity_commands", host.entityCommands), ("entity_world", host.entityAccess),
      ("command", host.command), ("entity_command", host.entityCommand),
      ("system_params", .tuple host.systemParams 0)]

/-- The fields of a record as objects. -/
def newFields : List Field → Action (List Value)
  | [] => return []
  | field :: rest => do
    let made ← allocate ClassId.field .plain
      [("name", .ofText field.name), ("annotation", field.hint),
        ("default", orMissing field.default), ("kw_only", .bool field.keywordOnly)]
    return made :: (← newFields rest)

/-- A generation as an object, with the plan it was made under. -/
def newArtifact (plan : Plan) (generation : Generation) : Action Value := do
  let specification ← newSpecification plan.body plan.signature
  let options ← newOptions plan.options
  let host ← newCapabilities plan.host
  let mode ← newMode generation.mode
  let fields ← newFields generation.fields
  let implementations ← newView (generation.implementations.map fun (id, function) =>
    (.ofClass id, function))
  allocate ClassId.artifact (.artifact generation)
    [("spec", specification), ("options", options), ("host", host), ("mode", mode),
      ("entity_command", .bool generation.forEntity),
      ("record", .ofClass generation.recordClass), ("routine", generation.routine),
      ("source", .ofText generation.source), ("fields", .tuple fields 0),
      ("trait", orAbsent (generation.extensionClass.map .ofClass)),
      ("method", orAbsent generation.extensionMethod), ("implementations", implementations),
      ("shadow", orAbsent generation.shadow)]

end Deferred.Action
