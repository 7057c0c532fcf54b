/-!
# Classes that are always there

The classes that every module sees without defining or importing them, by name.  Exceptions are kept
with the class right above them; every other class stands right below the root.
-/

namespace Deferred.Standard

/-- The exception classes, each with the class above it. -/
def exceptions : List (String × String) := [
  ("ArithmeticError", "Exception"), ("AssertionError", "Exception"),
  ("AttributeError", "Exception"), ("BaseException", "object"),
  ("BaseExceptionGroup", "BaseException"), ("BlockingIOError", "OSError"),
  ("BrokenPipeError", "ConnectionError"), ("BufferError", "Exception"),
  ("BytesWarning", "Warning"), ("ChildProcessError", "OSError"),
  ("ConnectionAbortedError", "ConnectionError"), ("ConnectionError", "OSError"),
  ("ConnectionRefusedError", "ConnectionError"), ("ConnectionResetError", "ConnectionError"),
  ("DeprecationWarning", "Warning"), ("EOFError", "Exception"), ("EncodingWarning", "Warning"),
  ("Exception", "BaseException"), ("ExceptionGroup", "BaseExceptionGroup"),
  ("FileExistsError", "OSError"), ("FileNotFoundError", "OSError"),
  ("FloatingPointError", "ArithmeticError"), ("FutureWarning", "Warning"),
  ("GeneratorExit", "BaseException"), ("ImportError", "Exception"), ("ImportWarning", "Warning"),
  ("IndentationError", "SyntaxError"), ("IndexError", "LookupError"),
  ("InterruptedError", "OSError"), ("IsADirectoryError", "OSError"), ("KeyError", "LookupError"),
  ("KeyboardInterrupt", "BaseException"), ("LookupError", "Exception"),
  ("MemoryError", "Exception"), ("ModuleNotFoundError", "ImportError"),
  ("NameError", "Exception"), ("NotADirectoryError", "OSError"),
  ("NotImplementedError", "RuntimeError"), ("OSError", "Exception"),
  ("OverflowError", "ArithmeticError"), ("PendingDeprecationWarning", "Warning"),
  ("PermissionError", "OSError"), ("ProcessLookupError", "OSError"),
  ("RecursionError", "RuntimeError"), ("ReferenceError", "Exception"),
  ("ResourceWarning", "Warning"), ("RuntimeError", "Exception"), ("RuntimeWarning", "Warning"),
  ("StopAsyncIteration", "Exception"), ("StopIteration", "Exception"),
  ("SyntaxError", "Exception"), ("SyntaxWarning", "Warning"), ("SystemError", "Exception"),
  ("SystemExit", "BaseException"), ("TabError", "IndentationError"), ("TimeoutError", "OSError"),
  ("TypeError", "Exception"), ("UnboundLocalError", "NameError"),
  ("UnicodeDecodeError", "UnicodeError"), ("UnicodeEncodeError", "UnicodeError"),
  ("UnicodeError", "ValueError"), ("UnicodeTranslateError", "UnicodeError"),
  ("UnicodeWarning", "Warning"), ("UserWarning", "Warning"), ("ValueError", "Exception"),
  ("Warning", "Exception"), ("ZeroDivisionError", "ArithmeticError")]

/-- The other classes. -/
def plainClasses : List String := [
  "bool", "bytearray", "bytes", "classmethod", "complex", "dict", "enumerate", "filter", "float",
  "frozenset", "int", "list", "map", "memoryview", "object", "property", "range", "reversed",
  "set", "slice", "staticmethod", "str", "super", "tuple", "type", "zip"]

/-- Second names of classes. -/
def secondNames : List (String × String) :=
  [("EnvironmentError", "OSError"), ("IOError", "OSError")]

/-- The classes that can be applied to arguments in brackets. -/
def genericClasses : List String :=
  ["BaseExceptionGroup", "ExceptionGroup", "dict", "enumerate", "frozenset", "list", "set",
    "tuple", "type"]

/-- The classes that no other class can inherit from. -/
def closedClasses : List String :=
  ["NoneType", "NotImplementedType", "bool", "builtin_function_or_method", "coroutine",
    "ellipsis", "function", "generator", "mappingproxy", "memoryview", "method", "range", "slice"]

/-- The classes whose instances are no keys. -/
def unhashableClasses : List String :=
  ["bytearray", "dict", "dict_items", "dict_keys", "list", "mappingproxy", "set", "slice"]

/-- The functions that are always there. -/
def functions : List String := [
  "__build_class__", "__import__", "abs", "aiter", "all", "anext", "any", "ascii", "bin",
  "breakpoint", "callable", "chr", "compile", "delattr", "dir", "divmod", "eval", "exec",
  "format", "getattr", "globals", "hasattr", "hash", "hex", "id", "input", "isinstance",
  "issubclass", "iter", "len", "locals", "max", "min", "next", "oct", "open", "ord", "pow",
  "print", "repr", "round", "setattr", "sorted", "sum", "vars"]

/-- The class that a name stands for, by the name the class has itself. -/
def className? (name : String) : Option String :=
  match secondNames.lookup name with
  | some first => some first
  | none =>
    if plainClasses.contains name || (exceptions.lookup name).isSome then some name else none

end Deferred.Standard
