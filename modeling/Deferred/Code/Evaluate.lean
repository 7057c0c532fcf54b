import Deferred.Call.Operate
import Deferred.Code.Declare
import Deferred.Code.Rename
import Deferred.Text.Docstring

/-!
# Running code

Code is run as it is written: the parts of an expression are evaluated from left to right, a name
means the nearest thing it is bound to (a local variable, then a name of the space around the code,
then what is always there), and a function ends at the first answer.  Statements at the top bind
names in the space; the body of a class binds names of its own, which become its attributes.
-/

namespace Deferred.Code

open Deferred.Action

/-- Where code stands: how calls are made, and the space whose names it sees. -/
structure Site where
  machine : Machine
  space : Ref

/-- The text that code was read from. -/
structure Origin where
  file : String
  text : String

/-- What a name means that nothing around the code binds. -/
def standardMeaning? (id : String) : Option Value :=
  if id = "None" then some .absent
  else if id = "True" then some (.bool true)
  else if id = "False" then some (.bool false)
  else Value.standard? id

/-- The meaning of a name. -/
def meaning (site : Site) (locals : Bindings) (id : String) : Action Value := do
  let store ← store
  match Entries.get? locals id with
  | some value => return value
  | none =>
    match Entries.get? (store.names site.space) id with
    | some value => return value
    | none => orFail (.undefinedName id) (standardMeaning? id)

/-- The class that generic classes are declared with, applied to the type variables of one. -/
def applyGeneric (items : List Value) : Action Value := do
  let store ← store
  match Hint.convertAll items with
  | .error .emptyText => fail .badIndex
  | .error .nullCharacter => fail (.badValue (Hint.ResolveError.nullCharacter.message store.describe))
  | .error error => fail (.badCode (error.message store.describe))
  | .ok given =>
    if !given.all (· matches .typeVariable _) then
      fail (.mismatch ("Parameters to Generic[...] must all be type variables or parameter " ++
        "specification variables."))
    else if given.length ≠ given.eraseDups.length then
      fail (.mismatch "Parameters to Generic[...] must all be unique")
    else return .applied ClassId.generic given 0

/-- A value with something in brackets behind it. -/
def subscripted (site : Site) (head : Value) (items : List Value) : Action Value :=
  if head.isClass ClassId.generic then applyGeneric items
  else
    match items with
    | [item] => Action.item site.machine.call head item
    | items => Action.item site.machine.call head (.tuple items 0)

/-- Put an entry into a table that is being written. -/
def keyed (key : Value) : Action Unit :=
  if key.hashable then done () else fail (.misuse .unhashable)

mutual

/-- The value of an expression. -/
def evaluate (site : Site) (locals : Bindings) : Expr → Action Value
  | .name id => meaning site locals id
  | .member target name => do
    getAttribute site.machine.call (← evaluate site locals target) name
  | .text value => return .ofText value
  | .call function positional keywords => do
    let target ← evaluate site locals function
    let positional ← evaluateAll site locals positional
    let keywords ← evaluateKeywords site locals keywords
    site.machine.call target { positional, keywords }
  | .tuple items => do fresh (.tuple (← evaluateAll site locals items))
  | .table entries => do newDict (← evaluateEntries site locals [] entries)
  | .subscript head items => do
    let head ← evaluate site locals head
    subscripted site head (← evaluateAll site locals items)
  | .closure parameters body => do
    let annotations ← newDict []
    allocate ClassId.function (.function
      { name := "<lambda>", qualname := "<lambda>", home := .absent, doc := .absent
        parameters := parameters.map CallParameter.plain, annotations
        body := .codeClosure body locals site.space })

def evaluateAll (site : Site) (locals : Bindings) : List Expr → Action (List Value)
  | [] => return []
  | expr :: rest => do
    let value ← evaluate site locals expr
    return value :: (← evaluateAll site locals rest)

def evaluateKeywords (site : Site) (locals : Bindings) :
    List (String × Expr) → Action (List (String × Value))
  | [] => return []
  | (keyword, expr) :: rest => do
    let value ← evaluate site locals expr
    return (keyword, value) :: (← evaluateKeywords site locals rest)

def evaluateEntries (site : Site) (locals : Bindings) (sofar : List (Value × Value)) :
    List (Expr × Expr) → Action (List (Value × Value))
  | [] => return sofar
  | (key, expr) :: rest => do
    let key ← evaluate site locals key
    let value ← evaluate site locals expr
    keyed key
    let store ← store
    let others := sofar.filter fun entry => !store.equal entry.1 key
    if others.length = sofar.length then
      evaluateEntries site locals (sofar ++ [(key, value)]) rest
    else
      evaluateEntries site locals
        (sofar.map fun entry => if store.equal entry.1 key then (entry.1, value) else entry) rest

end

/-! ## The bodies of functions -/

/-- What running statements comes to: the local variables, and the answer if one was given. -/
abbrev Progress := Bindings × Option Value

/-- The fault of an exception that is raised. -/
def raised (value : Value) : Action Fault := do
  let store ← store
  match value with
  | .object id _ =>
    if store.isSubclass id ClassId.baseException then
      return .foreign id.name (store.textOf value)
    else return .misuse .operands
  | _ => return .misuse .operands

mutual

/-- Run one statement of a function. -/
def execute (site : Site) (locals : Bindings) : Statement → Action Progress
  | .expression value => do
    let _ ← evaluate site locals value
    return (locals, none)
  | .assign name value => do
    return (Entries.put locals name (← evaluate site locals value), none)
  | .returns value => do return (locals, some (← evaluate site locals value))
  | .raises value => do
    let raised ← raised (← evaluate site locals value)
    fail raised
  | .choose branches => executeBranches site locals branches
  | _ => return (locals, none)

/-- Run statements up to the first answer. -/
def executeAll (site : Site) (locals : Bindings) : List Statement → Action Progress
  | [] => return (locals, none)
  | statement :: rest => do
    match ← execute site locals statement with
    | (locals, some answer) => return (locals, some answer)
    | (locals, none) => executeAll site locals rest

/-- Run the first branch whose condition holds. -/
def executeBranches (site : Site) (locals : Bindings) :
    List (Expr × List Statement) → Action Progress
  | [] => return (locals, none)
  | (condition, body) :: rest => do
    let holds ← evaluate site locals condition
    if ← truth site.machine holds then executeAll site locals body
    else executeBranches site locals rest

end

/-- Run the body of a function; without an answer of its own it answers with nothing. -/
def runBody (site : Site) (locals : Bindings) (body : List Statement) : Action Value := do
  let (_, answer) ← executeAll site locals body
  return answer.getD .absent

/-! ## Functions -/

/-- The parameters that a written parameter list declares, with the values of their defaults;
`named` tells that the mark before the parameters given by name was passed. -/
def parametersOf (site : Site) (locals : Bindings) :
    Bool → List ParameterItem → Action (List CallParameter)
  | _, [] => return []
  | _, .star :: rest => parametersOf site locals true rest
  | named, .slash :: rest => parametersOf site locals named rest
  | named, item :: rest => do
    let kind : ParameterKind :=
      if named then .keywordOnly
      else if rest.contains .slash then .positionalOnly else .positional
    let parameter ← match item with
      | .optional name default => do
        let value ← meaning site locals default
        done { name, kind, default := some value : CallParameter }
      | item => done { name := item.name?.getD "", kind, default := none : CallParameter }
    return parameter :: (← parametersOf site locals named rest)

/-- A declared parameter as it is written. -/
def writtenParameter (items : List ParameterItem) (parameter : CallParameter) : WrittenParameter :=
  { name := parameter.name
    kind := parameter.kind
    hint := none
    default := items.findSome? fun
      | .optional name default => if name = parameter.name then some default else none
      | _ => none }

/-- The number of the first line that opens with a text. -/
def lineOpeningWith (opening text : String) : Nat :=
  (Text.splitLines text.toList).findIdx (fun line => opening.toList.isPrefixOf line) + 1

/-- Does a text stand somewhere in a line? -/
def holds (sought : List Char) : List Char → Bool
  | [] => sought.isEmpty
  | c :: rest => sought.isPrefixOf (c :: rest) || holds sought rest

/-- The number of the first line that holds a text. -/
def lineHolding (sought text : String) : Nat :=
  (Text.splitLines text.toList).findIdx (fun line => holds sought.toList line) + 1

/-- The opening words of a function's body. -/
def docOf : List Statement → Value
  | .doc text :: _ => if text = "" then .absent else .ofText text
  | _ => .absent

/-- Apply decorators to a value, the last one first. -/
def decorate (machine : Machine) (value : Value) : List Value → Action Value
  | [] => return value
  | decorator :: rest => do
    let inner ← decorate machine value rest
    machine.call decorator (.ofList [inner])

/-- The function that a definition makes; `owner` is the class around it. -/
def makeFunction (site : Site) (origin : Origin) (locals : Bindings) (owner : Option String)
    (decorators : List Expr) (name : String) (items : List ParameterItem)
    (body : List Statement) : Action Value := do
  let decorators ← evaluateAll site locals decorators
  let parameters ← parametersOf site locals false items
  let annotations ← newDict []
  let home := (Entries.get? ((← store).names site.space) "__name__").getD .absent
  let line := lineOpeningWith ("def " ++ name ++ "(") origin.text - decorators.length
  let path := match owner with
    | some owner => owner ++ "." ++ name
    | none => name
  let function ← allocate ClassId.function (.function
    { name
      qualname := path
      codeName := name
      codePath := path
      home, parameters, annotations, line
      doc := docOf body
      body := .code body site.space
      file := origin.file
      source :=
        { name, parameters := parameters.map (writtenParameter items), returns := none, doc := none
          form := .definition
          layout :=
            { file := origin.file, line, indent := "", continuation := "    ", rows := false
              decorations := decorators.map fun _ => none, readable := owner.isNone } } })
  decorate site.machine function decorators

/-! ## The bodies of classes -/

/-- What the body of a class has bound so far: names, and the annotations of its fields. -/
structure ClassBody where
  bindings : Bindings := []
  hints : Bindings := []

/-- Note the annotation of a field. -/
def annotate (body : ClassBody) (name : String) (hint : Expr) : Action ClassBody := do
  let note (hint : String) : ClassBody :=
    { body with hints := Entries.put body.hints name (.ofText hint) }
  match Entries.get? body.bindings "__annotations__", hint with
  | some found, _ =>
    fail (.mismatch (Text.quote found.classId.name ++ " object does not support item assignment"))
  | none, .name id => return note id
  | none, _ => return body

/-- Run one statement in the body of a class. -/
def executeInClass (site : Site) (origin : Origin) (owner : String) (body : ClassBody) :
    Statement → Action ClassBody
  | .doc text =>
    return { body with bindings := Entries.put body.bindings "__doc__" (.ofText text) }
  | .field name hint (some value) => do
    let content ← evaluate site body.bindings value
    annotate { body with bindings := Entries.put body.bindings name content } name hint
  | .field name hint none => annotate body name hint
  | .assign name value => do
    let content ← evaluate site body.bindings value
    return { body with bindings := Entries.put body.bindings name content }
  | .expression value => do
    let _ ← evaluate site body.bindings value
    return body
  | .define decorators name items statements => do
    let function ← makeFunction site origin body.bindings (some owner) decorators name items
      statements
    return { body with bindings := Entries.put body.bindings name function }
  | _ => return body

/-- Run the body of a class. -/
def executeAllInClass (site : Site) (origin : Origin) (owner : String) :
    ClassBody → List Statement → Action ClassBody
  | body, [] => return body
  | body, statement :: rest => do
    executeAllInClass site origin owner
      (← executeInClass site origin owner body statement) rest

/-- The class that a declaration makes. -/
def makeClass (site : Site) (origin : Origin) (decorators : List Expr) (name : String)
    (bases : List Expr) (statements : List Statement) : Action Value := do
  let decorators ← evaluateAll site [] decorators
  let written ← evaluateAll site [] bases
  let bases ← standForBases written
  match classesOf (← store) bases with
  | .error (.mismatch words) =>
    if bases.length > 1 then fail (.mismatch words) else done ()
  | _ => done ()
  let meant := Statement.renamedAll (.inside name) statements
  let body ← executeAllInClass site origin name {} meant
  let hints ← if body.hints.isEmpty then done [] else do
    done [("__annotations__", ← newTable body.hints)]
  let store ← store
  let home := store.textOf ((Entries.get? (store.names site.space) "__name__").getD .absent)
  let made ← declareClass (!decorators.isEmpty) name home bases (variablesOf written)
    (Entries.putAll body.bindings hints)
  decorate site.machine made decorators

/-! ## Whole texts -/

/-- Run one statement at the top of a text. -/
def executeAtTop (site : Site) (origin : Origin) : Statement → Action Unit
  | .expression value => do
    let _ ← evaluate site [] value
    done ()
  | .assign name value => do
    perform (.setName site.space name (← evaluate site [] value))
  | .define decorators name items body => do
    let function ← makeFunction site origin [] none decorators name items body
    perform (.setName site.space name function)
  | .declare decorators name bases body => do
    let made ← makeClass site origin decorators name bases body
    perform (.setName site.space name made)
  | _ => done ()

/-- Run a whole text. -/
def runText (site : Site) (origin : Origin) (code : List Statement) : Action Unit :=
  forEach (Statement.renamedAll .normal code) (executeAtTop site origin)

end Deferred.Code
