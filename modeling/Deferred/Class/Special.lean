import Deferred.Class.Standard

/-!
# Special methods

The methods with reserved names that the classes have that are always there, those that every class
has through the root left out unless a class brings its own.
-/

namespace Deferred.Standard

/-- The special methods that compare. -/
def comparisons : List String := [
  "__eq__", "__ge__", "__gt__", "__le__", "__lt__", "__ne__"]

/-- The special methods of all numbers. -/
def sums : List String := [
  "__abs__", "__add__", "__bool__", "__mul__", "__neg__", "__pos__", "__pow__", "__radd__",
  "__rmul__", "__rpow__", "__rsub__", "__rtruediv__", "__sub__", "__truediv__"]

/-- The special methods of numbers that have an order. -/
def quotients : List String := [
  "__ceil__", "__divmod__", "__float__", "__floor__", "__floordiv__", "__int__", "__mod__",
  "__rdivmod__", "__rfloordiv__", "__rmod__", "__round__", "__trunc__"]

/-- The special methods that combine bits or sets. -/
def combinations : List String := [
  "__and__", "__or__", "__rand__", "__ror__", "__rxor__", "__xor__"]

/-- The special methods of sequences. -/
def sequences : List String := [
  "__add__", "__contains__", "__getitem__", "__iter__", "__len__", "__mul__", "__rmul__"]

/-- The special methods of iterations. -/
def stepping : List String := [
  "__getattribute__", "__iter__", "__next__", "__reduce__"]

/-- The exceptions that are not made by a method of their own. -/
def systemErrors : List String := [
  "BlockingIOError", "BrokenPipeError", "ChildProcessError", "ConnectionAbortedError",
  "ConnectionError", "ConnectionRefusedError", "ConnectionResetError", "FileExistsError",
  "FileNotFoundError", "IndentationError", "InterruptedError", "IsADirectoryError",
  "ModuleNotFoundError", "NotADirectoryError", "PermissionError", "ProcessLookupError", "TabError",
  "TimeoutError", "UnboundLocalError"]

/-- The special methods of a class. -/
def specialMethods (name : String) : List String :=
  match name with
  | "type" =>
    [
      "__call__", "__delattr__", "__dir__", "__getattribute__", "__init__", "__instancecheck__",
      "__new__", "__or__", "__repr__", "__ror__", "__setattr__", "__sizeof__",
      "__subclasscheck__", "__subclasses__"]
  | "int" =>
    comparisons ++ sums ++ quotients ++ combinations ++ [
      "__format__", "__getattribute__", "__getnewargs__", "__hash__", "__index__", "__invert__",
      "__lshift__", "__new__", "__repr__", "__rlshift__", "__rrshift__", "__rshift__",
      "__sizeof__"]
  | "bool" =>
    combinations ++ ["__new__", "__repr__"]
  | "float" =>
    comparisons ++ sums ++ quotients ++ [
      "__format__", "__getattribute__", "__getformat__", "__getnewargs__", "__hash__",
      "__new__", "__repr__"]
  | "complex" =>
    comparisons ++ sums ++ [
      "__complex__", "__format__", "__getattribute__", "__getnewargs__", "__hash__", "__new__",
      "__repr__"]
  | "str" =>
    comparisons ++ sequences ++ [
      "__format__", "__getattribute__", "__getnewargs__", "__hash__", "__mod__", "__new__",
      "__repr__", "__rmod__", "__sizeof__", "__str__"]
  | "bytes" =>
    comparisons ++ sequences ++ [
      "__bytes__", "__getattribute__", "__getnewargs__", "__hash__", "__mod__", "__new__",
      "__repr__", "__rmod__", "__str__"]
  | "bytearray" =>
    comparisons ++ sequences ++ [
      "__alloc__", "__delitem__", "__getattribute__", "__iadd__", "__imul__", "__init__",
      "__mod__", "__new__", "__reduce__", "__reduce_ex__", "__repr__", "__rmod__",
      "__setitem__", "__sizeof__", "__str__"]
  | "list" =>
    comparisons ++ sequences ++ [
      "__class_getitem__", "__delitem__", "__getattribute__", "__iadd__", "__imul__",
      "__init__", "__new__", "__repr__", "__reversed__", "__setitem__", "__sizeof__"]
  | "tuple" =>
    comparisons ++ sequences ++ [
      "__class_getitem__", "__getattribute__", "__getnewargs__", "__hash__", "__new__",
      "__repr__"]
  | "dict" =>
    comparisons ++ [
      "__class_getitem__", "__contains__", "__delitem__", "__getattribute__", "__getitem__",
      "__init__", "__ior__", "__iter__", "__len__", "__new__", "__or__", "__repr__",
      "__reversed__", "__ror__", "__setitem__", "__sizeof__"]
  | "set" =>
    comparisons ++ combinations ++ [
      "__class_getitem__", "__contains__", "__getattribute__", "__iand__", "__init__",
      "__ior__", "__isub__", "__iter__", "__ixor__", "__len__", "__new__", "__reduce__",
      "__repr__", "__rsub__", "__sizeof__", "__sub__"]
  | "frozenset" =>
    comparisons ++ combinations ++ [
      "__class_getitem__", "__contains__", "__getattribute__", "__hash__", "__iter__",
      "__len__", "__new__", "__reduce__", "__repr__", "__rsub__", "__sizeof__", "__sub__"]
  | "range" =>
    comparisons ++ [
      "__bool__", "__contains__", "__getattribute__", "__getitem__", "__hash__", "__iter__",
      "__len__", "__new__", "__reduce__", "__repr__", "__reversed__"]
  | "slice" =>
    comparisons ++ ["__getattribute__", "__new__", "__reduce__", "__repr__"]
  | "enumerate" =>
    stepping ++ ["__class_getitem__", "__new__"]
  | "zip" =>
    stepping ++ ["__new__", "__setstate__"]
  | "map" | "filter" =>
    stepping ++ ["__new__"]
  | "reversed" =>
    stepping ++ ["__length_hint__", "__new__", "__setstate__"]
  | "property" =>
    [
      "__delete__", "__get__", "__getattribute__", "__init__", "__new__", "__set__",
      "__set_name__"]
  | "staticmethod" => ["__call__", "__get__", "__init__", "__new__", "__repr__"]
  | "classmethod" => ["__get__", "__init__", "__new__", "__repr__"]
  | "super" => ["__get__", "__getattribute__", "__init__", "__new__", "__repr__"]
  | "memoryview" =>
    comparisons ++ [
      "__delitem__", "__enter__", "__exit__", "__getattribute__", "__getitem__", "__hash__",
      "__iter__", "__len__", "__new__", "__repr__", "__setitem__"]
  | "BaseException" =>
    [
      "__delattr__", "__getattribute__", "__init__", "__new__", "__reduce__", "__repr__",
      "__setattr__", "__setstate__", "__str__"]
  | "OSError" =>
    ["__init__", "__new__", "__reduce__", "__str__"]
  | "StopIteration" | "SystemExit" =>
    ["__init__"]
  | "ImportError" =>
    ["__init__", "__reduce__", "__str__"]
  | "SyntaxError" | "AttributeError" | "NameError" | "KeyError" =>
    ["__init__", "__str__"]
  | "UnicodeEncodeError" | "UnicodeDecodeError" | "UnicodeTranslateError" =>
    ["__init__", "__new__", "__str__"]
  | "BaseExceptionGroup" =>
    ["__class_getitem__", "__init__", "__new__", "__str__"]
  | "function" =>
    ["__call__", "__get__", "__new__", "__repr__"]
  | "method" =>
    comparisons ++ [
      "__call__", "__delattr__", "__getattribute__", "__hash__", "__new__", "__reduce__",
      "__repr__", "__setattr__"]
  | "builtin_function_or_method" | "method-wrapper" =>
    comparisons ++ ["__call__", "__getattribute__", "__hash__", "__reduce__", "__repr__"]
  | "generator" =>
    ["__del__", "__getattribute__", "__iter__", "__next__", "__repr__", "__sizeof__"]
  | "module" =>
    [
      "__delattr__", "__dir__", "__getattribute__", "__init__", "__new__", "__repr__",
      "__setattr__"]
  | "mappingproxy" =>
    comparisons ++ [
      "__class_getitem__", "__contains__", "__getattribute__", "__getitem__", "__ior__",
      "__iter__", "__len__", "__new__", "__or__", "__repr__", "__reversed__", "__ror__",
      "__str__"]
  | "dict_keys" | "dict_items" =>
    comparisons ++ combinations ++ [
      "__contains__", "__getattribute__", "__iter__", "__len__", "__repr__", "__reversed__",
      "__rsub__", "__sub__"]
  | "dict_values" =>
    ["__getattribute__", "__iter__", "__len__", "__repr__", "__reversed__"]
  | "NoneType" =>
    ["__bool__", "__new__", "__repr__"]
  | "ellipsis" =>
    ["__getattribute__", "__new__", "__reduce__", "__repr__"]
  | "NotImplementedType" =>
    ["__bool__", "__new__", "__reduce__", "__repr__"]
  | "method_descriptor" | "wrapper_descriptor" =>
    ["__call__", "__get__", "__getattribute__", "__reduce__", "__repr__"]
  | "coroutine" =>
    ["__await__", "__del__", "__getattribute__", "__repr__", "__sizeof__"]
  | "list_iterator" | "tuple_iterator" | "str_iterator" | "str_ascii_iterator" | "bytes_iterator"
    | "bytearray_iterator" | "range_iterator" | "longrange_iterator" | "list_reverseiterator" |
    "iterator" =>
    stepping ++ ["__length_hint__", "__setstate__"]
  | "set_iterator" | "dict_keyiterator" | "dict_valueiterator" | "dict_itemiterator" =>
    stepping ++ ["__length_hint__"]
  | "dict_reversekeyiterator" | "dict_reversevalueiterator" | "dict_reverseitemiterator" =>
    ["__iter__", "__length_hint__", "__next__", "__reduce__"]
  | "callable_iterator" =>
    stepping
  | "ExceptionGroup" => []
  | name =>
    if systemErrors.contains name then ["__init__"]
    else if (exceptions.lookup name).isSome then ["__init__", "__new__"]
    else []

/-- The special methods that are plain methods: no operator stands for them. -/
def plainMethods : List String := [
  "__alloc__", "__bytes__", "__ceil__", "__complex__", "__dir__", "__enter__", "__exit__",
  "__floor__", "__format__", "__getnewargs__", "__getstate__", "__instancecheck__",
  "__length_hint__", "__new__", "__reduce__", "__reduce_ex__", "__reversed__", "__round__",
  "__set_name__", "__setstate__", "__sizeof__", "__subclasscheck__", "__subclasses__", "__trunc__"]

/-- The special methods that belong to a class rather than to its instances. -/
def classMethods : List String :=
  ["__class_getitem__", "__getformat__", "__init_subclass__", "__prepare__", "__subclasshook__"]

/-- Is a special method of a class a plain method? -/
def isPlain (className method : String) : Bool :=
  plainMethods.contains method || classMethods.contains method ||
    [("list", "__getitem__"), ("dict", "__contains__"), ("dict", "__getitem__"),
      ("set", "__contains__"), ("frozenset", "__contains__")].contains (className, method)

/-- The parts that the instances of a class have from the start. -/
def parts (className : String) : List String :=
  match className with
  | "int" => ["real", "imag", "numerator", "denominator"]
  | "float" | "complex" => ["real", "imag"]
  | "range" | "slice" => ["start", "stop", "step"]
  | "property" => ["fget", "fset", "fdel", "__isabstractmethod__"]
  | "staticmethod" | "classmethod" => ["__func__", "__wrapped__", "__isabstractmethod__"]
  | "super" => ["__self__", "__self_class__", "__thisclass__"]
  | "dict_keys" | "dict_values" | "dict_items" => ["mapping"]
  | "BaseException" =>
    ["args", "__cause__", "__context__", "__suppress_context__", "__traceback__"]
  | "OSError" => ["errno", "strerror", "filename", "filename2", "characters_written"]
  | "StopIteration" => ["value"]
  | "SystemExit" => ["code"]
  | "ImportError" => ["msg", "name", "path"]
  | "SyntaxError" =>
    ["msg", "filename", "lineno", "offset", "text", "end_lineno", "end_offset",
      "print_file_and_line"]
  | "AttributeError" => ["name", "obj"]
  | "NameError" => ["name"]
  | "BaseExceptionGroup" => ["message", "exceptions"]
  | "UnicodeEncodeError" | "UnicodeDecodeError" | "UnicodeTranslateError" =>
    ["encoding", "object", "start", "end", "reason"]
  | _ => []

/-- Is a part of the instances of a class made when it is asked for? -/
def isComputed (className part : String) : Bool :=
  ["int", "float", "dict_keys", "dict_values", "dict_items"].contains className ||
    className = "BaseException" && part ≠ "__suppress_context__" ||
    part = "characters_written" || part = "__isabstractmethod__"

end Deferred.Standard
