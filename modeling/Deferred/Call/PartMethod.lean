import Deferred.Call.Iterate

/-!
# Methods of the parts of a generation

What a generation was made from can be asked: a host for its markers and types, and the map of a
definition for the places of its tokens.
-/

namespace Deferred.Action

/-- The attribute of a host under which a marker is kept. -/
def markerAttributes : List (String × String) :=
  [("World", "world"), ("Entity", "entity"), ("In", "input_marker"), ("Commands", "commands"),
    ("EntityCommands", "entity_commands"), ("EntityWorldMut", "entity_world"),
    ("Command", "command"), ("EntityCommand", "entity_command"),
    ("SYSTEM_PARAMS", "system_params")]

/-- The methods of a host. -/
def capabilityMethod (machine : Machine) (name : String) (arguments : List Value) :
    Action Value := do
  let choose (host flag : Value) (onEntity otherwise : String) : Action Value := do
    getAttribute machine.call host (if ← truth machine flag then onEntity else otherwise)
  match name, arguments with
  | "command_base", [host, flag] => choose host flag "entity_command" "command"
  | "queued_target", [host, flag] => choose host flag "entity_commands" "commands"
  | "direct_target", [host, flag] => choose host flag "entity_world" "world"
  | "marker", [host, marker] => do
    match marker.asText?.bind fun key => markerAttributes.lookup key with
    | some part => getAttribute machine.call host part
    | none =>
      if marker.hashable then fail (.keyMissing ((← store).describe marker))
      else fail (.misuse .unhashable)
  | _, _ => fail (.misuse .arguments)

/-- A place in a file as a value. -/
def newSpan (file line column segment : Value) : Action Value :=
  allocate ClassId.span .plain
    [("file", file), ("line", line), ("column", column), ("segment", segment)]

/-- The methods of the map of a definition. -/
def sourceMapMethod (machine : Machine) (name : String) (arguments : List Value) :
    Action Value := do
  let call := machine.call
  -- What is kept, or the place of the definition.
  let orDefinition (spans found segment : Value) : Action Value := do
    if ← truth machine found then return found
    else send call spans "definition" (.ofList [segment])
  match name, arguments with
  | "definition", [spans, segment] => do
    newSpan (← getAttribute call spans "file") (← getAttribute call spans "line") (.ofInt 0) segment
  | "for_parameter", [spans, parameter] => do
    let kept ← getAttribute call spans "parameters"
    orDefinition spans (← send call kept "get" (.ofList [parameter])) parameter
  | "for_option", [spans, key] => do
    let kept ← getAttribute call spans "keywords"
    orDefinition spans (← send call kept "get" (.ofList [key])) key
  | "for_return", [spans] => do
    orDefinition spans (← getAttribute call spans "returns") (.ofText "return")
  | _, _ => fail (.misuse .arguments)

end Deferred.Action
