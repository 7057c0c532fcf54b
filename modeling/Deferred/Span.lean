/-!
# Places in the text of a definition

Every diagnostic points at the token that caused it: a parameter, a keyword of a decoration or the
return annotation.  A source map holds the spans of one definition; a token without a span of its
own is looked up at the line of the definition.
-/

namespace Deferred

/-- The place of a token. -/
structure Span where
  file : String
  line : Int
  column : Int := 0
  segment : String := ""
  deriving DecidableEq, Repr, Inhabited

namespace Span

/-- A place as it opens a diagnostic. -/
def text (span : Span) : String :=
  let location := span.file ++ ":" ++ toString span.line ++ ":" ++ toString span.column
  if span.segment = "" then location else location ++ " (`" ++ span.segment ++ "`)"

end Span

/-- An error and the place it points at. -/
structure Located (ε : Type) where
  error : ε
  span : Option Span
  deriving Repr

/-- The spans of the tokens of one definition. -/
structure SourceMap where
  file : String
  line : Int
  parameters : List (String × Span) := []
  returns : Option Span := none
  keywords : List (String × Span) := []
  deriving DecidableEq, Repr, Inhabited

namespace SourceMap

/-- The line of the definition. -/
def definition (spans : SourceMap) (segment : String) : Span :=
  { file := spans.file, line := spans.line, segment := segment }

/-- Where a parameter stands. -/
def forParameter (spans : SourceMap) (name : String) : Span :=
  (spans.parameters.lookup name).getD (spans.definition name)

/-- Where a keyword of a decoration stands. -/
def forOption (spans : SourceMap) (key : String) : Span :=
  (spans.keywords.lookup key).getD (spans.definition key)

/-- Where the return annotation stands. -/
def forReturn (spans : SourceMap) : Span :=
  spans.returns.getD (spans.definition "return")

end SourceMap

end Deferred
