import Deferred.Call.Invoke
import Deferred.Generation.Fragments
import Deferred.Text.Numeral

/-!
# Assembling a command

Assembling runs the code of a command among everything that it uses and collects what it declares:
the record class, the public routine and the extension with its implementations.  Code that cannot
be compiled or does not run is refused before anything is collected.  What is collected goes by the
names that a reader of the command expects, not by those that the code uses.
-/

namespace Deferred

/-- The mark of methods that belong to an extension; it holds the name of the extension. -/
def extensionMark : String := "__commandify_trait__"

namespace Plan

/-- The name that nothing can be bound to. -/
def fixedName : String := "__debug__"

/-- Is a name another spelling of the one that nothing can be bound to? -/
def isFixed (name : String) : Bool := Text.normalName name = fixedName

/-- How the line opens that binds the name that nothing can be bound to. -/
def fixedOpening? (plan : Plan) : Option String :=
  let declaration (name : String) : Option String :=
    if isFixed name then some ("class " ++ name ++ "(") else none
  match plan.fields.find? fun field => isFixed field.name with
  | some field => some ("    " ++ field.name ++ ": ")
  | none =>
    (declaration plan.options.recordName).or
      (if plan.options.noExtension then none else declaration plan.options.extensionName)

/-- The file of the text of a command as a message names it. -/
def shortSourceName (plan : Plan) : String :=
  String.ofList (plan.sourceName.toList.reverse.takeWhile (· ≠ '/')).reverse

/-- A field whose name the language keeps for itself, as what is wrong with the text, and the number
of the line where that shows.  Most such names make no sense where a field is declared; the rest
open something that the lines after the declaration do not go on with. -/
def keptField? (plan : Plan) (text : String) : Option (String × Nat) := do
  let field ← plan.fields.find? fun field => Text.isKeyword field.name
  let line := Code.lineOpeningWith ("    " ++ field.name ++ ": ") text
  if ["None", "True", "False"].contains field.name then
    some ("illegal target for annotation", line)
  else if field.name = "try" then
    let isLast := (plan.fields.getLast?.map Field.name) == some field.name
    some ("expected 'except' or 'finally' block", if isLast then line + 2 else line + 1)
  else if field.name = "lambda" then
    if field.default.isSome then some ("cannot assign to lambda", line)
    else some ("invalid syntax", Code.lineHolding ("self." ++ field.name) text)
  else some ("invalid syntax", line)

/-- What keeps the text of a command from being compiled.  The name of the record comes first in the
text, so a number in its place is seen before all else. -/
def compileError? (plan : Plan) (text : String) : Option AssemblyError :=
  let refusedAt (words : String) (line : Nat) : AssemblyError :=
    .failed "SyntaxError" (words ++ " (" ++ plan.shortSourceName ++ ", line " ++
      toString line ++ ")")
  let refused (words opening : String) : AssemblyError :=
    refusedAt words (Code.lineOpeningWith opening text)
  if let some words := Text.Numeral.fault? plan.options.recordName.toList then
    some (refused words ("class " ++ plan.options.recordName ++ "("))
  else if let some (words, line) := plan.keptField? text then some (refusedAt words line)
  else
  match Code.Statement.repeatedParameterAmong?
      (Code.Statement.renamedAll .normal plan.code) with
  | some (name, parameter) =>
    some (refused ("duplicate argument " ++ Text.quote parameter ++ " in function definition")
      ("def " ++ name ++ "("))
  | none =>
    plan.fixedOpening?.map fun opening => refused ("cannot assign to " ++ fixedName) opening

/-- A failure of the generated code as it is reported. -/
def report (plan : Plan) (error : AssemblyError) : Fault :=
  Diagnosis.ofAssembly plan.signature.qualname
    (plan.signature.spans.definition plan.signature.name) error

end Plan

namespace Fault

/-- The kinds of exception that a diagnostic about generated code explains. -/
def explainedKinds : List ClassId :=
  ["SyntaxError", "TypeError", "ValueError", "NameError"].map (.declared "builtins")

/-- What a fault of generated code says inside the diagnostic that explains it.  Every other fault
is none of the code's doing. -/
def explained? (store : Store) (fault : Fault) : Option String :=
  match fault.generatedWords? with
  | some words => some words
  | none =>
    match fault with
    | .rejected _ => none
    | fault =>
      if explainedKinds.any (store.isSubclass (.declared "builtins" fault.kind)) then
        some (fault.message?.getD "")
      else none

end Fault

namespace Action

/-! ## Routines under other names -/

/-- The name under which a routed routine is kept. -/
def shadowName (name : String) : String := "_" ++ name ++ "_unrouted"

/-- A qualified name with another last part. -/
def requalified (qualname name : String) : String :=
  let owner := qualname.toList.reverse.dropWhile (· ≠ '.')
  if owner.length ≤ 1 then name else String.ofList owner.reverse ++ name

/-- A function under another name. -/
def renamed (function : FunctionObject) (name : String) : FunctionObject :=
  let path := requalified function.qualname name
  { function with name, qualname := path, codeName := name, codePath := path }

/-- Copy a function under another name, with its attributes and a table of annotations of its
own. -/
def copyRenamed (function : FunctionObject) (attributes : Bindings) (name : String) :
    Action Value := do
  let store ← store
  let entries := match store.objectOf? function.annotations with
    | some (.dict entries) => entries
    | _ => []
  let annotations ← newDict entries
  allocate ClassId.function (.function { renamed function name with annotations }) attributes

/-- The plan with the routine that the code is to call: a routed routine is kept under another
name, since the public name is given to the routine that routes. -/
def withShadow (plan : Plan) : Action Plan := do
  let store ← store
  match plan.isRouted, store.functionOf? plan.body with
  | true, some function =>
    let shadow ← copyRenamed function (store.attributesOf plan.body)
      (shadowName plan.signature.name)
    return { plan with body := shadow }
  | _, _ => return plan

/-! ## Running the code -/

/-- Run the code of a command among the names that it uses; the answer is the space of names that
it leaves. -/
def runCode (machine : Machine) (plan : Plan) (text : String) (names : Bindings) :
    Action Ref := do
  let store ← store
  let home := ((store.functionOf? plan.body).map FunctionObject.home).getD
    (.ofText plan.signature.home)
  let space := store.cells.size
  let _ ← allocate ClassId.dict (.space (("__name__", home) :: names))
  match ← attempt (Code.runText ⟨machine, space⟩ ⟨plan.sourceName, text⟩ plan.code) with
  | .ok _ => return space
  | .error fault =>
    match fault.explained? (← Action.store) with
    | some words => fail (plan.report (.failed fault.kind words))
    | none => fail fault

/-! ## Collecting what was declared -/

/-- Give a declared function the name of the method, and the words of the routine. -/
def nameMethod (plan : Plan) (function : Value) (owner : String) : Action Unit := do
  let method := plan.options.methodName
  setAttribute function "__name__" (.ofText method)
  setAttribute function "__qualname__" (.ofText (owner ++ "." ++ method))
  setAttribute function "__doc__" ((plan.signature.doc.map Value.ofText).getD .absent)

/-- The implementations that the code declared, each with its receiver type. -/
def declaredImplementations (space : Ref) : Action (List (ClassId × Value)) := do
  let store ← store
  match Entries.get? (store.names space) Code.implementationsName with
  | none => return []
  | some table =>
    match store.objectOf? table with
    | some (.dict entries) =>
      return entries.filterMap fun (type, function) => type.asClass?.map (·, function)
    | _ => fail (.misuse .notIterable)

/-- What the extension of a command consists of. -/
structure Extension where
  type : Option Value
  method : Option Value
  implementations : List (ClassId × Value)

/-- Collect the extension and give its functions their names. -/
def collectExtension (plan : Plan) (space : Ref) : Action Extension := do
  let names := (← store).names space
  let type := Entries.get? names Code.extensionAlias
  let method := Entries.get? names Code.methodName
  let implementations ← declaredImplementations space
  match type, method with
  | some type, some method => do
    let owner := ((← store).nameOf? type).getD ""
    setAttribute type generatedMark (.bool true)
    nameMethod plan method owner
    -- A method that is the class itself has just renamed it.
    setAttribute method extensionMark (.ofText (((← store).nameOf? type).getD ""))
    forEach implementations fun (id, function) => do
      nameMethod plan function ((← store).className id)
  | _, _ => done ()
  return { type, method, implementations }

/-- The attributes that the public routine takes over from the routine it stands for. -/
def sharedAttributes : List String := ["__module__", "__name__", "__qualname__", "__doc__"]

/-- Copy some attributes from one function to another. -/
def copyAttributes (machine : Machine) (source target : Value) (names : List String) :
    Action Unit :=
  forEach names fun name => do
    setAttribute target name (← getAttribute machine.call source name)

/-- The routine that is left under the public name.  A routine that takes the declared parameters
stands in for the declared one; one that takes the fields of the record only goes by its name. -/
def publicRoutine (machine : Machine) (plan : Plan) (undecorated : Value) (space : Ref) :
    Action Value := do
  if !plan.isRouted then return undecorated
  else
    let store ← store
    let routine ← orFail (.keyMissing (Text.quote Code.routineName))
      (Entries.get? (store.names space) Code.routineName)
    match plan.mode with
    | .scheduled => copyAttributes machine undecorated routine sharedAttributes
    | .exclusive => do
      copyAttributes machine undecorated routine (sharedAttributes ++ ["__annotations__"])
      forEach (store.attributesOf undecorated) fun (name, value) =>
        setAttribute routine name value
      setAttribute routine "__wrapped__" undecorated
    return routine

/-- Run the code of a command and collect what it declares. -/
def assemble (machine : Machine) (plan : Plan) (undecorated : Value) (shadow : Option Value)
    (fragments : Plan.Fragments) : Action Generation := do
  let source := fragments.source
  let names ← match Code.Fragment.merge [] fragments.toList with
    | .ok names => done names
    | .error conflict => fail (plan.report (.conflict conflict))
  match plan.compileError? source with
  | some error => fail (plan.report error)
  | none => done ()
  let space ← runCode machine plan source names
  let record ← orFail (.keyMissing (Text.quote Code.recordAlias))
    (Entries.get? ((← store).names space) Code.recordAlias)
  setAttribute record generatedMark (.bool true)
  let extension ← collectExtension plan space
  let routine ← publicRoutine machine plan undecorated space
  return {
    name := plan.signature.name
    qualname := plan.signature.qualname
    home := plan.signature.home
    line := plan.signature.spans.line
    mode := plan.mode
    forEntity := plan.forEntity
    method := plan.options.methodName
    recordClass := record.asClass?.getD ClassId.object
    extensionClass := extension.type.bind Value.asClass?
    extensionMethod := extension.method
    implementations := extension.implementations
    routine, shadow, source
    fields := plan.fields }

/-- Generate the command of a routine, under a plan made for the routine itself. -/
def generate (machine : Machine) (plan : Plan) : Action Generation := do
  let routed ← withShadow plan
  match routed.fragments with
  | .ok fragments =>
    assemble machine routed plan.body (if plan.isRouted then some routed.body else none) fragments
  | .error conflict => fail (.bindingConflict conflict.message)

end Action

end Deferred
