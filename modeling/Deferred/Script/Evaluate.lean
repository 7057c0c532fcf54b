import Deferred.Call.Operate
import Deferred.Script.Datum
import Deferred.Store.Answer

/-!
# Running scripts

A script is evaluated inside a scope, whose variables it reads and binds.  The parts of an
expression are evaluated from left to right, and a fault ends the evaluation where it stands.
-/

namespace Deferred

/-- The attribute of a routine that holds what was generated for it. -/
def artifactAttribute : String := "__commandify__"

namespace Action

/-- What was generated for a routine. -/
def artifactOf (call : Caller) (routine : Value) : Action Value := do
  match ← attempt (getAttribute call routine artifactAttribute) with
  | .ok artifact => return artifact
  | .error fault =>
    if isMissing fault then fail (.notGenerated ((← store).describe routine)) else fail fault

/-- A value as it is shown in an answer, if it can be shown. -/
def revealed (value : Value) : Action Shown := do
  let store ← store
  match store.unshown? value with
  | some fault => fail fault
  | none => return store.shown value

end Action

namespace Script

open Deferred.Action

mutual

/-- The value of a script. -/
def evaluate (machine : Machine) (scope : Ref) : Script → Action Value
  | .datum value => do
    let store ← store
    value.make (store.moduleOf scope)
  | .variable name => do
    let store ← store
    orFail (.keyMissing (Text.quote name)) (Entries.get? (store.locals scope) name)
  | .bind name value => do
    let value ← evaluate machine scope value
    perform (.setVariable scope name value)
    return value
  | .sequence steps => evaluateLast machine scope .absent steps
  | .choose condition yes no => do
    let condition ← evaluate machine scope condition
    if ← truth machine condition then evaluate machine scope yes
    else evaluate machine scope no
  | .each name source body => do
    let iteration ← iterate machine (← evaluate machine scope source)
    eachItem machine (fun item => do
      perform (.setVariable scope name item)
      let _ ← evaluate machine scope body) iteration machine.bound
    return .absent
  | .list members => do newList (← evaluateAll machine scope members)
  | .tuple members => do fresh (.tuple (← evaluateAll machine scope members))
  | .component className value => do
    let value ← evaluate machine scope value
    machine.call (.ofClass (Datum.componentClass className)) (.ofList [value])
  | .attribute target name => do
    getAttribute machine.call (← evaluate machine scope target) name
  | .setAttribute target name value => do
    let target ← evaluate machine scope target
    let value ← evaluate machine scope value
    assignAttribute machine.call target name value
    return .absent
  | .hasAttribute target name => do
    return .bool (← Action.hasAttribute machine.call (← evaluate machine scope target) name)
  | .item target index => do
    let target ← evaluate machine scope target
    let index ← evaluate machine scope index
    Action.item machine.call target index
  | .length target => do
    fresh (.int (← lengthOf machine (← evaluate machine scope target)))
  | .items target => do
    newList (← itemsOf machine (← evaluate machine scope target))
  | .send target method positional keywords => do
    let target ← evaluate machine scope target
    let positional ← evaluateAll machine scope positional
    let keywords ← evaluateKeywords machine scope keywords
    Action.send machine.call target method { positional, keywords }
  | .invoke function positional keywords => do
    let function ← evaluate machine scope function
    let positional ← evaluateAll machine scope positional
    let keywords ← evaluateKeywords machine scope keywords
    machine.call function { positional, keywords }
  | .partialCall function positional keywords => do
    let function ← evaluate machine scope function
    let positional ← evaluateAll machine scope positional
    let keywords ← evaluateKeywords machine scope keywords
    partially function { positional, keywords }
  | .closure parameters body => do
    let annotations ← newDict []
    allocate ClassId.function (.function
      { name := "<lambda>", qualname := "<lambda>", home := .absent, doc := .absent
        parameters := parameters.map CallParameter.plain, annotations
        body := .script body scope })
  | .global name => do
    let store ← store
    Datum.global (store.moduleOf scope) name
  | .artifact routine part => do
    let routine ← evaluate machine scope routine
    getAttribute machine.call (← artifactOf machine.call routine) part
  | .command function => do
    let function ← evaluate machine scope function
    allocate ClassId.scriptCommand (.scripted function)
  | .entityCommand function => do
    let function ← evaluate machine scope function
    allocate ClassId.scriptEntityCommand (.scripted function)
  | .runSystem world system value => do
    let world ← evaluate machine scope world
    let system ← evaluate machine scope system
    let input ← evaluateOption machine scope value
    Action.runSystem machine.call world system (match input with
      | some .noInput => none
      | input => input)
  | .noInput => return .noInput
  | .newWorld => machine.call (.ofClass ClassId.world) {}
  | .newQueue => machine.call (.ofClass ClassId.commandQueue) {}
  | .newCommands queue world => do
    let queue ← evaluate machine scope queue
    let world ← evaluate machine scope world
    machine.call (.ofClass ClassId.commands) (.ofList [queue, world])
  | .success value => do fresh (.success (← evaluate machine scope value))
  | .failure value => do fresh (.failure (← evaluate machine scope value))
  | .log value => do
    let value ← evaluate machine scope value
    perform (.log (← revealed value))
    return .absent
  | .raise text => fail (.script text)
  | .isInstance value type => do
    let value ← evaluate machine scope value
    let type ← evaluate machine scope type
    return .bool (← isInstanceOf machine value type)
  | .same first second => do
    let first ← evaluate machine scope first
    let second ← evaluate machine scope second
    return .bool (Value.same first second)
  | .binary operator first second => do
    let first ← evaluate machine scope first
    let second ← evaluate machine scope second
    operate machine operator first second

/-- The value of the last of several scripts, `last` if there are none. -/
def evaluateLast (machine : Machine) (scope : Ref) (last : Value) : List Script → Action Value
  | [] => return last
  | step :: rest => do
    let value ← evaluate machine scope step
    evaluateLast machine scope value rest

def evaluateAll (machine : Machine) (scope : Ref) : List Script → Action (List Value)
  | [] => return []
  | script :: rest => do
    let value ← evaluate machine scope script
    return value :: (← evaluateAll machine scope rest)

def evaluateKeywords (machine : Machine) (scope : Ref) :
    List (String × Script) → Action (List (String × Value))
  | [] => return []
  | (keyword, script) :: rest => do
    let value ← evaluate machine scope script
    return (keyword, value) :: (← evaluateKeywords machine scope rest)

def evaluateOption (machine : Machine) (scope : Ref) : Option Script → Action (Option Value)
  | none => return none
  | some script => do return some (← evaluate machine scope script)

end

end Script

end Deferred
