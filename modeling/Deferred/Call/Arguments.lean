import Deferred.Action

/-!
# Arguments and parameters

A call brings arguments by position and by name, and they have to fit the parameters of what is
called: every parameter is filled at most once, a parameter that is not filled needs a default, and
what is left over needs a parameter that takes any number.
-/

namespace Deferred

/-- The arguments of a call. -/
structure Arguments where
  positional : List Value := []
  keywords : List (String × Value) := []
  deriving Inhabited

/-- How values are called. -/
abbrev Caller := Value → Arguments → Action Value

/-- What calls are made with: how the calls inside them are made, and the most items that one loop
may take. -/
structure Machine where
  call : Caller
  bound : Nat

/-- What a parameter is filled with. -/
inductive Filling where
  | value (value : Value)
  /-- The keywords that no other parameter took. -/
  | named (entries : List (String × Value))
  deriving Inhabited

namespace Arguments

/-- Arguments by position only. -/
def ofList (positional : List Value) : Arguments := { positional }

/-- Can a parameter be filled by position? -/
def takesPosition (parameter : CallParameter) : Bool :=
  parameter.kind = .positionalOnly || parameter.kind = .positional

/-- Can a parameter be filled by name? -/
def takesName (parameter : CallParameter) : Bool :=
  parameter.kind = .positional || parameter.kind = .keywordOnly

/-- Fill the parameters in order.  `positional` are the arguments by position that are left. -/
def fill (keywords leftover : List (String × Value)) :
    List CallParameter → List Value → Option (List (String × Filling))
  | [], [] => some []
  | [], _ :: _ => none
  | parameter :: rest, positional =>
    let byName := if takesName parameter then keywords.lookup parameter.name else none
    match parameter.kind with
    | .variadic =>
      (fill keywords leftover rest []).map ((parameter.name, .value (.tuple positional 0)) :: ·)
    | .keywordVariadic =>
      (fill keywords leftover rest positional).map ((parameter.name, .named leftover) :: ·)
    | _ =>
      match takesPosition parameter, positional, byName with
      | true, argument :: others, none =>
        (fill keywords leftover rest others).map ((parameter.name, .value argument) :: ·)
      | true, _ :: _, some _ => none
      | _, _, some argument =>
        (fill keywords leftover rest positional).map ((parameter.name, .value argument) :: ·)
      | _, _, none =>
        parameter.default.bind fun value =>
          (fill keywords leftover rest positional).map ((parameter.name, .value value) :: ·)

/-- The keywords that no parameter takes by name. -/
def leftover (parameters : List CallParameter) (keywords : List (String × Value)) :
    List (String × Value) :=
  keywords.filter fun (name, _) =>
    !parameters.any fun parameter => takesName parameter && parameter.name = name

/-- Fit arguments to parameters. -/
def fit? (parameters : List CallParameter) (arguments : Arguments) :
    Option (List (String × Filling)) :=
  let extra := leftover parameters arguments.keywords
  if !extra.isEmpty && !parameters.any (·.kind = .keywordVariadic) then none
  else fill arguments.keywords extra parameters arguments.positional

/-- Turn what fills the parameters into values. -/
def values : List (String × Filling) → Action (List (String × Value))
  | [] => return []
  | (name, .value value) :: rest => do return (name, value) :: (← values rest)
  | (name, .named entries) :: rest => do
    let dict ← Action.allocate ClassId.dict
      (.dict (entries.map fun (key, value) => (.ofText key, value)))
    return (name, dict) :: (← values rest)

/-! ## Why arguments do not fit -/

/-- Names as a list in words. -/
def namesInWords (names : List String) : String :=
  match names.map Text.quote with
  | [] => ""
  | [first] => first
  | [first, second] => first ++ " and " ++ second
  | names => String.intercalate ", " names.dropLast ++ ", and " ++ names.getLastD ""

/-- The letter that a number other than one puts behind a word. -/
def plural (count : Nat) : String := if count = 1 then "" else "s"

/-- The parameters that an argument by position reaches. -/
def reached (parameters : List CallParameter) (positional : List Value) : List CallParameter :=
  (parameters.filter takesPosition).take positional.length

/-- What is wrong with a keyword, if anything is. -/
def wrongKeyword? (parameters : List CallParameter) (positional : List Value)
    (keywords : List (String × Value)) (keyword : String) : Option String :=
  if parameters.any fun parameter => takesName parameter && parameter.name = keyword then
    if (reached parameters positional).any (·.name = keyword) then
      some ("got multiple values for argument " ++ Text.quote keyword)
    else none
  else if parameters.any (·.kind = .keywordVariadic) then none
  else
    match parameters.filter fun parameter =>
        parameter.kind = .positionalOnly && (keywords.lookup parameter.name).isSome with
    | [] => some ("got an unexpected keyword argument " ++ Text.quote keyword)
    | hidden => some ("got some positional-only arguments passed as keyword arguments: '" ++
        String.intercalate ", " (hidden.map CallParameter.name) ++ "'")

/-- How many arguments by position there should have been. -/
def tooMany (parameters : List CallParameter) (arguments : Arguments) : String :=
  let takers := parameters.filter takesPosition
  let optional := (takers.filter (·.default.isSome)).length
  let given := arguments.positional.length
  let named := (parameters.filter fun parameter => parameter.kind = .keywordOnly &&
    (arguments.keywords.lookup parameter.name).isSome).length
  let limit := if optional = 0 then toString takers.length
    else "from " ++ toString (takers.length - optional) ++ " to " ++ toString takers.length
  "takes " ++ limit ++ " positional argument" ++
    (if optional = 0 then plural takers.length else "s") ++ " but " ++ toString given ++
    (if named = 0 then ""
      else " positional argument" ++ plural given ++ " (and " ++ toString named ++
        " keyword-only argument" ++ plural named ++ ")") ++
    (if given = 1 && named = 0 then " was given" else " were given")

/-- The parameters that are left without an argument, in words. -/
def missing? (kind : String) (parameters : List CallParameter)
    (keywords : List (String × Value)) : Option String :=
  match (parameters.filter fun parameter => parameter.default.isNone &&
      !(takesName parameter && (keywords.lookup parameter.name).isSome)).map
      CallParameter.name with
  | [] => none
  | names => some ("missing " ++ toString names.length ++ " required " ++ kind ++ " argument" ++
      plural names.length ++ ": " ++ namesInWords names)

/-- Why arguments do not fit: the first keyword that is wrong, else too many arguments by position,
else the parameters that are left without one. -/
def misfit (parameters : List CallParameter) (arguments : Arguments) : String :=
  let positional := arguments.positional
  let keywords := arguments.keywords
  let takers := parameters.filter takesPosition
  let isOpen := parameters.any (·.kind = .variadic)
  match keywords.findSome? fun (keyword, _) =>
      wrongKeyword? parameters positional keywords keyword with
  | some words => words
  | none =>
    if takers.length < positional.length && !isOpen then tooMany parameters arguments
    else
      ((missing? "positional" (takers.drop positional.length) keywords).or
        (missing? "keyword-only" (parameters.filter (·.kind = .keywordOnly)) keywords)).getD ""

/-- Bind arguments to parameters, or fail when they do not fit what goes by a name. -/
def bindTo (name : String) (parameters : List CallParameter) (arguments : Arguments) :
    Action (List (String × Value)) :=
  match fit? parameters arguments with
  | some filled => values filled
  | none => .fail (.mismatch (name ++ "() " ++ misfit parameters arguments))

end Arguments

end Deferred
