import Deferred.Value

/-!
# Routines

A routine is a definition that a command is made from: the parameters and annotations that it has
now, and the text that it was written in.  The two can disagree, since the attributes of a function
may be replaced after it was written.
-/

namespace Deferred

/-- How an argument can reach a parameter. -/
inductive ParameterKind where
  | positionalOnly
  | positional
  /-- Takes all further positional arguments. -/
  | variadic
  | keywordOnly
  /-- Takes all further keyword arguments. -/
  | keywordVariadic
  deriving DecidableEq, Repr, Inhabited

namespace ParameterKind

/-- Does a parameter of this kind take any number of arguments? -/
def isVariadic : ParameterKind → Bool
  | variadic => true
  | keywordVariadic => true
  | _ => false

/-- Can a parameter of this kind be filled by position? -/
def isPositional : ParameterKind → Bool
  | positionalOnly => true
  | positional => true
  | _ => false

/-- The stars in front of the name. -/
def stars : ParameterKind → String
  | variadic => "*"
  | keywordVariadic => "**"
  | _ => ""

end ParameterKind

/-- A parameter that a call has to fill. -/
structure CallParameter where
  name : String
  kind : ParameterKind
  default : Option Value
  deriving Inhabited

namespace CallParameter

/-- A parameter without a default. -/
def plain (name : String) : CallParameter := { name, kind := .positional, default := none }

/-- A parameter that takes all further positional arguments. -/
def rest (name : String) : CallParameter := { name, kind := .variadic, default := none }

/-- The defaults of the parameters that are filled by position, in order. -/
def defaults (parameters : List CallParameter) : List Value :=
  (parameters.filter (·.kind.isPositional)).filterMap CallParameter.default

/-- The defaults of the parameters that are filled by name only. -/
def keywordDefaults (parameters : List CallParameter) : List (String × Value) :=
  (parameters.filter (·.kind = .keywordOnly)).filterMap fun parameter =>
    parameter.default.map (parameter.name, ·)

/-- Give the last of the parameters that are filled by position these defaults, the others none. -/
def withDefaults (values : List Value) (parameters : List CallParameter) : List CallParameter :=
  let count := (parameters.filter (·.kind.isPositional)).length
  go (count - values.length) (values.drop (values.length - count)) parameters
where
  go : Nat → List Value → List CallParameter → List CallParameter
    | _, _, [] => []
    | without, values, parameter :: rest =>
      if parameter.kind.isPositional then
        match without with
        | n + 1 => { parameter with default := none } :: go n values rest
        | 0 => { parameter with default := values.head? } :: go 0 (values.drop 1) rest
      else parameter :: go without values rest

/-- Give the parameters that are filled by name only these defaults, the others none. -/
def withKeywordDefaults (values : List (String × Value)) (parameters : List CallParameter) :
    List CallParameter :=
  parameters.map fun parameter =>
    if parameter.kind = .keywordOnly then { parameter with default := values.lookup parameter.name }
    else parameter

end CallParameter

/-- A parameter as it is written. -/
structure WrittenParameter where
  name : String
  kind : ParameterKind
  hint : Option String
  /-- The text of the default. -/
  default : Option String
  deriving Repr, Inhabited

/-- The three ways of writing a routine. -/
inductive RoutineForm where
  | definition
  /-- A definition whose calls are suspended. -/
  | coroutine
  /-- A nameless routine inside an expression. -/
  | anonymous
  deriving DecidableEq, Repr, Inhabited

/-- How the text of a routine is laid out. -/
structure Layout where
  file : String
  /-- The number of the first line. -/
  line : Nat
  indent : String
  /-- The opening of a line that continues a list. -/
  continuation : String
  /-- One item a line, or all items on one line? -/
  rows : Bool
  /-- The decorations: bare, or with the keywords of a call. -/
  decorations : List (Option (List String))
  /-- Can the text be read back? -/
  readable : Bool
  deriving Repr, Inhabited

/-- The text a routine was written in. -/
structure Source where
  name : String
  parameters : List WrittenParameter
  returns : Option String
  doc : Option String
  form : RoutineForm
  layout : Layout
  deriving Repr, Inhabited

namespace Source

/-- No text at all. -/
def missing : Source :=
  { name := "", parameters := [], returns := none, doc := none, form := .definition
    layout :=
      { file := "<unknown>", line := 0, indent := "", continuation := "", rows := false
        decorations := [], readable := false } }

/-- The annotated parameters in the order their annotations are looked at, and the return
annotation last. -/
def annotations (source : Source) : List (String × String) :=
  let ofKind (kind : ParameterKind) : List (String × String) :=
    source.parameters.filterMap fun parameter =>
      if parameter.kind = kind then parameter.hint.map (parameter.name, ·) else none
  ofKind .positional ++ ofKind .positionalOnly ++ ofKind .variadic ++ ofKind .keywordOnly ++
    ofKind .keywordVariadic ++ (source.returns.map ("return", ·)).toList

end Source

/-- A routine. -/
structure Routine where
  name : String
  qualname : String
  /-- The module the routine says it belongs to. -/
  home : String
  doc : Option String
  parameters : List CallParameter
  /-- What is written beside parameters and behind the list, as it is now. -/
  annotations : List (String × Value)
  typeParameters : List Value
  /-- Are the calls of the routine suspended? -/
  isSuspended : Bool
  /-- The file and the line of the routine itself. -/
  file : String
  line : Nat
  /-- The text that is read back for the routine. -/
  source : Source
  /-- What the names of the module meant when the routine was built. -/
  names : List (String × Value)
  deriving Inhabited

end Deferred
