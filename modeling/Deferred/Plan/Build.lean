import Deferred.Diagnosis

/-!
# Making a plan

The stages that come before any code: the signature is read, the options are resolved, the host is
loaded, the parameters are sorted into roles, the mode is chosen and the routing is checked.  The
first stage that fails ends the generation.
-/

namespace Deferred

/-- What the stages know of the values that they meet. -/
structure Surroundings where
  /-- What resolving annotations needs to know. -/
  scope : Hint.Scope
  modules : Modules
  /-- The name that a value goes by. -/
  nameOf? : Value → Option String
  /-- The items of a sequence. -/
  sequence? : Value → Option (List Value)
  /-- A value as it is shown in a message. -/
  describe : Value → String

namespace Plan

/-- Turn the error of a stage into what it is reported as. -/
def orReport {ε α : Type} (report : ε → Fault) : Except ε α → Except Fault α
  | .ok value => .ok value
  | .error error => .error (report error)

/-- Read, check and combine everything that the code of a command depends on.  `body` is the
routine as a value. -/
def build (around : Surroundings) (target : Target) (raw : Options.Raw) (forEntity : Bool)
    (body : Value) : Except Fault Plan := do
  let describe := around.describe
  let signature ← orReport (Diagnosis.ofSignature describe)
    (Signature.ofTarget around.scope target)
  let spans := signature.spans
  let options ← orReport (Diagnosis.ofOptions describe spans)
    (Options.resolve raw signature.name forEntity)
  let host ← orReport Diagnosis.ofHost
    (Host.load around.sequence? around.modules options.root
      (some (spans.forOption (Options.rootKey raw))))
  let classification ← orReport (Diagnosis.ofClassify describe signature)
    (Classification.ofSignature around.nameOf? signature host forEntity)
  let mode ← orReport (Diagnosis.ofMode signature) classification.mode
  orReport (Diagnosis.ofRouting signature) (checkRouting signature options)
  return { signature, options, host, classification, mode, forEntity, body }

end Plan

end Deferred
