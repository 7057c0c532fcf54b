import Deferred.Store.Basic

/-!
# Methods of the classes that are always there

The named methods of plain values, each with its parameters.  A parameter without a default that can
still be left out, and what is given to it then, is a parameter that takes any number.
-/

namespace Deferred

/-- A member that a class has from the start. -/
inductive Member where
  /-- A method with its parameters, the receiver not counted. -/
  | method (parameters : List CallParameter)
  | property
  /-- Another name of a method. -/
  | second (name : String)
  | value (value : Value)
  /-- Something that is there, and of which nothing else is known. -/
  | other
  deriving Inhabited

namespace CallParameter

/-- A parameter with a default. -/
def optional (name : String) (default : Value) : CallParameter :=
  { name, kind := .positional, default := some default }

/-- A parameter that is given by position only. -/
def unnamed (name : String) : CallParameter :=
  { name, kind := .positionalOnly, default := none }

/-- A parameter that is given by position only and has a default. -/
def unnamedOptional (name : String) (default : Value) : CallParameter :=
  { name, kind := .positionalOnly, default := some default }

/-- A parameter that is given by name only. -/
def named (name : String) (default : Value) : CallParameter :=
  { name, kind := .keywordOnly, default := some default }

/-- A parameter that takes any number of names. -/
def keywords (name : String) : CallParameter :=
  { name, kind := .keywordVariadic, default := none }

end CallParameter

namespace Standard

open CallParameter

/-- Methods with the same parameters. -/
def methods (parameters : List CallParameter) (names : List String) : List (String × Member) :=
  names.map (·, .method parameters)

/-- The largest index. -/
def lastIndex : Value := .ofInt (Text.twoPow 63 - 1)

/-- The parameters of a search between two bounds. -/
def searching (sought : String) : List CallParameter :=
  [unnamed sought, unnamedOptional "start" .absent, unnamedOptional "end" .absent]

/-- The parameters of a search in a sequence of values. -/
def searchingValue : List CallParameter :=
  [unnamed "value", unnamedOptional "start" (.ofInt 0), unnamedOptional "stop" lastIndex]

/-- The parameters of a conversion between text and octets. -/
def encoding : List CallParameter :=
  [optional "encoding" (.ofText "utf-8"), optional "errors" (.ofText "strict")]

/-- The parameters of cutting at separators. -/
def cutting : List CallParameter := [optional "sep" .absent, optional "maxsplit" (.ofInt (-1))]

/-- The methods that text and octets have in common; `fill` is what fills a field. -/
def stringMethods (fill : Value) (trimmed : String) : List (String × Member) :=
  methods [] ["capitalize", "isalnum", "isalpha", "isascii", "isdigit", "islower", "isspace",
    "istitle", "isupper", "lower", "swapcase", "title", "upper"] ++
  methods [unnamed "width", unnamedOptional "fillchar" fill] ["center", "ljust", "rjust"] ++
  methods (searching "sub") ["count", "find", "index", "rfind", "rindex"] ++
  methods (searching "prefix") ["startswith"] ++ methods (searching "suffix") ["endswith"] ++
  methods [unnamedOptional trimmed .absent] ["strip", "lstrip", "rstrip"] ++
  methods [unnamed "sep"] ["partition", "rpartition"] ++
  methods [unnamed "prefix"] ["removeprefix"] ++ methods [unnamed "suffix"] ["removesuffix"] ++
  methods cutting ["split", "rsplit"] ++ [
    ("expandtabs", .method [optional "tabsize" (.ofInt 8)]),
    ("replace", .method [unnamed "old", unnamed "new", unnamedOptional "count" (.ofInt (-1))]),
    ("splitlines", .method [optional "keepends" (.bool false)]),
    ("zfill", .method [unnamed "width"])]

/-- The methods of text. -/
def textMethods : List (String × Member) :=
  stringMethods (.ofText " ") "chars" ++
  methods [] ["casefold", "isdecimal", "isidentifier", "isnumeric", "isprintable"] ++ [
    ("encode", .method encoding), ("format", .method [rest "args", keywords "kwargs"]),
    ("format_map", .method [unnamed "mapping"]), ("join", .method [unnamed "iterable"]),
    ("maketrans", .method [unnamed "x", rest "others"]), ("translate", .method [unnamed "table"])]

/-- The methods of octets. -/
def octetMethods : List (String × Member) :=
  stringMethods (.octets [32] 0) "bytes" ++ [
    ("decode", .method encoding), ("fromhex", .method [unnamed "string"]),
    ("hex", .method [optional "sep" .noInput, optional "bytes_per_sep" (.ofInt 1)]),
    ("join", .method [unnamed "iterable_of_bytes"]),
    ("maketrans", .method [unnamed "frm", unnamed "to"]),
    ("translate", .method [unnamed "table", optional "delete" (.octets [] 0)])]

/-- The methods of lists that octets which can change have too. -/
def changingMethods (item : String) : List (String × Member) :=
  methods [] ["clear", "copy", "reverse"] ++ [
    ("append", .method [unnamed item]), ("insert", .method [unnamed "index", unnamed item]),
    ("pop", .method [unnamedOptional "index" (.ofInt (-1))]),
    ("remove", .method [unnamed "value"])]

/-- The methods of sets. -/
def setMethods : List (String × Member) :=
  methods [rest "others"] ["difference", "intersection", "union"] ++
  methods [unnamed "other"] ["isdisjoint", "issubset", "issuperset", "symmetric_difference"] ++
  methods [] ["copy"]

/-- The parameters of the conversions between whole numbers and octets. -/
def byteOrder (first : CallParameter) : List CallParameter :=
  [first, optional "byteorder" (.ofText "big"), named "signed" (.bool false)]

/-- The named methods of a class. -/
def namedMethods (name : String) : List (String × Member) :=
  match name with
  | "int" =>
    methods [] ["as_integer_ratio", "bit_count", "bit_length", "conjugate"] ++ [
      ("from_bytes", .method (byteOrder (plain "bytes"))),
      ("to_bytes", .method (byteOrder (optional "length" (.ofInt 1))))]
  | "float" =>
    methods [] ["as_integer_ratio", "conjugate", "hex", "is_integer"] ++
      [("fromhex", .method [unnamed "string"])]
  | "complex" => methods [] ["conjugate"]
  | "str" => textMethods
  | "bytes" => octetMethods
  | "bytearray" =>
    octetMethods ++ changingMethods "item" ++
      [("extend", .method [unnamed "iterable_of_ints"])]
  | "list" =>
    changingMethods "object" ++ [
      ("count", .method [unnamed "value"]), ("extend", .method [unnamed "iterable"]),
      ("index", .method searchingValue),
      ("sort", .method [named "key" .absent, named "reverse" (.bool false)])]
  | "tuple" => [("count", .method [unnamed "value"]), ("index", .method searchingValue)]
  | "dict" =>
    methods [] ["clear", "copy", "items", "keys", "popitem", "values"] ++
    methods [unnamed "key", unnamedOptional "default" .absent] ["get", "setdefault"] ++ [
      ("fromkeys", .method [unnamed "iterable", unnamedOptional "value" .absent]),
      ("pop", .method [unnamed "key", rest "default"]),
      ("update", .method [rest "args", keywords "kwargs"])]
  | "mappingproxy" =>
    methods [] ["copy", "items", "keys", "values"] ++
      [("get", .method [unnamed "key", unnamedOptional "default" .absent])]
  | "set" =>
    setMethods ++ methods [] ["clear", "pop"] ++
    methods [unnamed "object"] ["add", "discard", "remove"] ++
    methods [rest "others"] ["difference_update", "intersection_update", "update"] ++
    methods [unnamed "other"] ["symmetric_difference_update"]
  | "frozenset" => setMethods
  | "dict_keys" | "dict_items" => [("isdisjoint", .method [unnamed "other"])]
  | "range" => methods [unnamed "object"] ["count", "index"]
  | "slice" => [("indices", .method [unnamed "object"])]
  | "type" => methods [] ["mro"]
  | "property" => methods [unnamed "function"] ["deleter", "getter", "setter"]
  | "BaseException" =>
    methods [unnamed "object"] ["add_note", "with_traceback"]
  | _ => []

/-- The members of a class that is always there, its bases not counted. -/
def membersOf (name : String) : List (String × Member) :=
  namedMethods name ++ (parts name).map (·, .property) ++
    (specialMethods name).map (·, .other) ++
    if unhashableClasses.contains name then [("__hash__", .value .absent)] else []

end Standard

end Deferred
