import Deferred.Span
import Deferred.Value

/-!
# Reports

A report is a diagnostic as it reaches the user: the stage that refused the definition, the kind of
error, its words, the place it points at and what else is known about it.
-/

namespace Deferred

/-- A diagnostic. -/
structure Report where
  stage : String
  kind : String
  message : String
  span : Option Span
  context : List (Value × Value)
  deriving Inhabited

namespace Report

/-- A report on one line, behind the place it points at. -/
def text (report : Report) : String :=
  let base := report.kind ++ "[" ++ report.stage ++ "]: " ++ report.message
  match report.span with
  | some span => span.text ++ ": " ++ base
  | none => base

/-- An entry of the context that holds text. -/
def noteText (key value : String) : Value × Value := (.ofText key, .ofText value)

/-- An entry of the context that holds several texts. -/
def noteTexts (key : String) (values : List String) : Value × Value :=
  (.ofText key, .tuple (values.map .ofText) 0)

end Report

end Deferred
