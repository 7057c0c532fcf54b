import Deferred.Text.Quoted
import Deferred.Text.Similarity

/-!
# The words of a command line

A command line names the tool's options, then one of its commands, then the options and arguments of
that command.  Options of the tool end at the first word that is none; those of a command may stand
anywhere before a `--`.  A command line that cannot be read is refused with the usage of whatever
refused it.
-/

namespace Deferred.CommandLine

/-- What has a usage of its own: the tool and each of its commands. -/
inductive Entry where
  | tool
  | list
  | expand
  deriving DecidableEq, Repr, Inhabited

namespace Entry

/-- How an entry is called. -/
def path : Entry → String
  | tool => "main"
  | list => "main list"
  | expand => "main expand"

/-- What may follow the name of an entry. -/
def usage : Entry → String
  | tool => "Usage: main [OPTIONS] COMMAND [ARGS]..."
  | list => "Usage: main list [OPTIONS] MODULE_NAME"
  | expand => "Usage: main expand [OPTIONS] MODULE_NAME [NAME]"

/-- The long options of an entry; none takes a value. -/
def options : Entry → List String
  | tool => ["--verbose", "--help"]
  | list => ["--help"]
  | expand => ["--help"]

/-- The option that a letter stands for. -/
def ofLetter? : Entry → Char → Option String
  | tool, 'v' => some "--verbose"
  | _, _ => none

/-- The commands of the tool. -/
def commands : List (String × Entry) := [("expand", expand), ("list", list)]

/-- The help of an entry. -/
def help : Entry → List String
  | tool =>
    [tool.usage, "", "  Inspect commands generated by commandify.", "", "Options:",
      "  -v, --verbose  Enable debug logging",
      "  --help         Show this message and exit.", "", "Commands:",
      "  expand  Print the generated source of every command, or only NAME.",
      "  list    List the commands defined in MODULE_NAME."]
  | list =>
    [list.usage, "", "  List the commands defined in MODULE_NAME.", "", "Options:",
      "  --help  Show this message and exit."]
  | expand =>
    [expand.usage, "", "  Print the generated source of every command, or only NAME.", "",
      "Options:", "  --help  Show this message and exit."]

end Entry

/-- Why a command line cannot be read. -/
inductive UsageError where
  | unknownOption (entry : Entry) (name : String) (similar : List String)
  | unknownCommand (name : String) (similar : List String)
  | noCommand
  | missingArgument (entry : Entry)
  | extraArguments (entry : Entry) (arguments : List String)
  /-- An option that takes no value was given one. -/
  | valueGiven (option : String)
  deriving DecidableEq, Repr, Inhabited

namespace UsageError

/-- Whose usage is shown with an error, if any. -/
def entry? : UsageError → Option Entry
  | unknownOption entry _ _ => some entry
  | unknownCommand _ _ => some .tool
  | noCommand => some .tool
  | missingArgument entry => some entry
  | extraArguments entry _ => some entry
  | valueGiven _ => none

/-- The question whether another word was meant. -/
def suggestion : List String → String
  | [] => ""
  | [word] => " Did you mean " ++ Text.quote word ++ "?"
  | words => " (Did you mean one of: " ++ String.intercalate ", " (words.map Text.quote) ++ "?)"

def message : UsageError → String
  | unknownOption _ name similar =>
    "No such option " ++ Text.quote name ++ "." ++ suggestion similar
  | unknownCommand name similar =>
    "No such command " ++ Text.quote name ++ "." ++ suggestion similar
  | noCommand => "Missing command."
  | missingArgument _ => "Missing argument 'MODULE_NAME'."
  | extraArguments _ arguments =>
    (if arguments.length = 1 then "Got unexpected extra argument ("
      else "Got unexpected extra arguments (") ++ String.intercalate " " arguments ++ ")"
  | valueGiven option => "Option " ++ Text.quote option ++ " does not take a value."

/-- The lines an error is reported in. -/
def lines (error : UsageError) : List String :=
  let closing := "Error: " ++ error.message
  match error.entry? with
  | some entry =>
    [entry.usage, "Try '" ++ entry.path ++ " --help' for help.", "", closing]
  | none => [closing]

end UsageError

/-- What a command line asks for. -/
inductive Request where
  /-- Nothing at all, so the tool explains itself. -/
  | nothing
  | help (entry : Entry)
  | list (module : String)
  | expand (module : String) (name : Option String)
  deriving DecidableEq, Repr, Inhabited

/-- A command line that was read. -/
structure Invocation where
  verbose : Bool
  request : Request
  deriving DecidableEq, Repr, Inhabited

/-- The options that are set by the letters of one word. -/
def readLetters (entry : Entry) : List Char → Except UsageError (List String)
  | [] => .ok []
  | letter :: rest =>
    match entry.ofLetter? letter with
    | some option => (readLetters entry rest).map (option :: ·)
    | none => .error (.unknownOption entry (String.ofList ['-', letter]) [])

/-- The options that one word sets. -/
def readOption (entry : Entry) (word : String) : Except UsageError (List String) :=
  let name := String.ofList (word.toList.takeWhile (· ≠ '='))
  if entry.options.contains name then
    if name = word then .ok [name] else .error (.valueGiven name)
  else
    match word.toList with
    | '-' :: '-' :: _ =>
      .error (.unknownOption entry name (Text.similarWords entry.options name))
    | _ :: letters => readLetters entry letters
    | [] => .ok []

/-- Does a word set options? -/
def isOption (word : String) : Bool :=
  match word.toList with
  | '-' :: _ :: _ => true
  | _ => false

/-- The options and the arguments of an entry.  Only a command goes on looking for options behind an
argument. -/
def separate (entry : Entry) : List String → Except UsageError (List String × List String)
  | [] => .ok ([], [])
  | word :: rest =>
    if word = "--" then .ok ([], rest)
    else if isOption word then do
      let options ← readOption entry word
      let (others, arguments) ← separate entry rest
      return (options ++ others, arguments)
    else if entry = .tool then .ok ([], word :: rest)
    else do
      let (options, arguments) ← separate entry rest
      return (options, word :: arguments)

/-- The request made by the words behind the name of a command. -/
def readCommand (entry : Entry) (words : List String) : Except UsageError Request := do
  let (options, arguments) ← separate entry words
  if options.contains "--help" then return .help entry
  else
    match entry, arguments with
    | .expand, [module] => return .expand module none
    | .expand, [module, name] => return .expand module (some name)
    | .expand, _ :: _ :: extra => throw (.extraArguments entry extra)
    | _, [module] => return .list module
    | _, [] => throw (.missingArgument entry)
    | _, _ :: extra => throw (.extraArguments entry extra)

/-- Read a command line. -/
def read (words : List String) : Except UsageError Invocation := do
  let (options, rest) ← separate .tool words
  let verbose := options.contains "--verbose"
  if words.isEmpty then return { verbose, request := .nothing }
  else if options.contains "--help" then return { verbose, request := .help .tool }
  else
    match rest with
    | [] => throw .noCommand
    | name :: arguments =>
      match Entry.commands.lookup name with
      | some entry => return { verbose, request := ← readCommand entry arguments }
      | none => do
        let _ ← if isOption name then readOption .tool name else pure []
        throw (.unknownCommand name (Text.similarWords (Entry.commands.map Prod.fst) name))

end Deferred.CommandLine
