import Deferred.CommandLine.Inspection
import Deferred.CommandLine.Usage
import Deferred.Store.Serial

/-!
# Running the command line

A run ends with an exit code and with what it wrote.  Refused command lines end with 2, and
everything else that goes wrong with 1: a definition that was refused and a module that is not there
are explained, and any other fault of a loaded module escapes.
-/

namespace Deferred.CommandLine

/-- How a run ended. -/
structure Outcome where
  exit : Nat := 0
  stdout : String := ""
  stderr : String := ""
  /-- A fault that nothing explained, with the store it happened in. -/
  escaped : Option (Fault × Store) := none
  deriving Inhabited

/-- A text that ends its line. -/
def lineOf (text : String) : String := text ++ "\n"

/-- Several texts, each of which ends its line. -/
def linesOf (texts : List String) : String := String.join (texts.map lineOf)

/-- The line that a command has in a list. -/
def summary (store : Store) (generation : Generation) : String :=
  String.intercalate "\t"
    [generation.name, generation.mode.name, store.className generation.recordClass,
      (generation.extensionClass.map store.className).getD "-"]

/-- The list of the commands of a module. -/
def listing (module : String) (store : Store) (generations : List Generation) : String :=
  if generations.isEmpty then lineOf ("No commands found in " ++ module)
  else linesOf (generations.map (summary store))

/-- The code of a command under its name. -/
def expansion (generation : Generation) : String :=
  linesOf ["# " ++ generation.qualname, generation.source]

/-- The code of the commands of a module, or of those with one name. -/
def expansions (module : String) (name : Option String) (generations : List Generation) :
    Except String String :=
  match name with
  | none => .ok (String.join (generations.map expansion))
  | some name =>
    match generations.filter (·.name = name) with
    | [] => .error ("no command named " ++ name ++ " in " ++ module)
    | found => .ok (String.join (found.map expansion))

/-- The line of a notice. -/
def noticeLine (store : Store) (notice : Notice) : String :=
  lineOf (notice.level.name ++ " commandify.decorators: " ++ notice.text store)

/-- The notices that are urgent enough to be shown. -/
def noticeLines (verbose : Bool) (store : Store) : String :=
  String.join ((store.notices.filter fun notice => verbose || notice.level = .warning).map
    (noticeLine store))

/-- The words that explain what went wrong. -/
def complaint (text : String) : String := lineOf ("Error: " ++ text)

/-- How a run ends on a fault that nothing explains; `before` is what was written by then. -/
def breakdown (before : Outcome) (fault : Fault) (store : Store) : Outcome :=
  if fault.kind = "EOFError" ∨ fault.kind = "KeyboardInterrupt" then
    { before with exit := 1, stderr := before.stderr ++ linesOf ["", "Aborted!"] }
  else if fault.kind = "SystemExit" then
    { before with exit := 1, stdout := before.stdout ++ lineOf (fault.message?.getD "") }
  else { before with exit := 1, escaped := some (fault, store) }

/-- How a run ends when a module could not be loaded. -/
def refusal (module : String) (before : Outcome) (fault : Fault) (store : Store) : Outcome :=
  let explained (text : String) : Outcome :=
    { before with exit := 1, stderr := before.stderr ++ complaint text }
  match fault with
  | .rejected report => explained (module ++ ": " ++ report.text)
  | fault =>
    if fault.kind = "ImportError" ∨ fault.kind = "ModuleNotFoundError" then
      explained ("cannot import " ++ module ++ ": " ++ fault.message?.getD "")
    else breakdown before fault store

/-- What was written before a command line is answered. -/
def written (verbose : Bool) (store : Store) : Outcome :=
  { stdout := store.printed, stderr := noticeLines verbose store }

/-- Load a module and answer from its commands. -/
def answer (sources : List ModuleSource) (verbose : Bool) (module : String)
    (shown : Store → List Generation → Except String String) : Outcome :=
  match (loadModule sources module).run {} with
  | (.error fault, store) => refusal module (written verbose store) fault store
  | (.ok (), loaded) =>
    match (commandsOf (Action.machine Scenario.bound) module).run loaded with
    | (.error fault, store) => breakdown (written verbose store) fault store
    | (.ok generations, store) =>
      let before := written verbose store
      match shown store generations with
      | .ok text => { before with stdout := before.stdout ++ text }
      | .error text => { before with exit := 1, stderr := before.stderr ++ complaint text }

/-- Run a command line over some modules. -/
def run (sources : List ModuleSource) (words : List String) : Outcome :=
  match read words with
  | .error error => { exit := 2, stderr := linesOf error.lines }
  | .ok { verbose, request } =>
    match request with
    | .nothing => { exit := 2, stderr := linesOf Entry.tool.help }
    | .help entry => { stdout := linesOf entry.help }
    | .list module => answer sources verbose module fun store found =>
      .ok (listing module store found)
    | .expand module name => answer sources verbose module fun _ => expansions module name

end Deferred.CommandLine
