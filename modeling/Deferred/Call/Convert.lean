import Deferred.Call.StandardMethod
import Deferred.Code.Declare

/-!
# Making plain values

Calling a class of plain values makes an instance of it from what the call brings: a number from
text, text from any value, a collection from the items of another.  A value that is such an instance
already, and can never change, stands for itself.
-/

namespace Deferred.Action

open CallParameter

/-- The values of the parameters of something that goes by a name, in order. -/
def valuesFor (name : String) (parameters : List CallParameter) (arguments : Arguments) :
    Action (List Value) := do
  return (← arguments.bindTo name parameters).map Prod.snd

/-- A parameter of a conversion by position that can be left out. -/
def maybe (name : String) : CallParameter := unnamedOptional name .noInput

/-- A parameter of a conversion that can be left out. -/
def maybeNamed (name : String) : CallParameter := optional name .noInput

/-- What a conversion to a class of plain values takes; `none` for a class of which no instances are
made that way. -/
def conversionParameters? (name : String) : Option (List CallParameter) :=
  match name with
  | "object" | "NoneType" | "ellipsis" | "NotImplementedType" => some []
  | "bool" | "float" | "list" | "tuple" | "set" | "frozenset" => some [maybe "x"]
  | "int" => some [maybe "x", maybeNamed "base"]
  | "complex" => some [maybeNamed "real", maybeNamed "imag"]
  | "str" => some [maybeNamed "object", maybeNamed "encoding", maybeNamed "errors"]
  | "bytes" | "bytearray" =>
    some [maybeNamed "source", maybeNamed "encoding", maybeNamed "errors"]
  | "dict" => some [rest "args", keywords "kwargs"]
  | "range" | "slice" => some [unnamed "start", maybe "stop", maybe "step"]
  | "enumerate" => some [plain "iterable", optional "start" (.ofInt 0)]
  | "zip" => some [rest "iterables", named "strict" (.bool false)]
  | "map" => some [unnamed "function", unnamed "iterable", rest "others"]
  | "filter" => some [unnamed "function", unnamed "iterable"]
  | "reversed" | "staticmethod" | "classmethod" | "mappingproxy" => some [unnamed "object"]
  | "memoryview" => some [plain "object"]
  | "property" =>
    some [optional "fget" .absent, optional "fset" .absent, optional "fdel" .absent,
      optional "doc" .absent]
  | "type" => some [unnamed "object", maybe "bases", maybe "dict"]
  | "super" => some [maybe "type", maybe "object"]
  | _ => none

/-! ## Numbers -/

/-- A whole number of a value, spelled in a base if one is given. -/
def newWhole (call : Caller) (value base : Value) : Action Value := do
  match value, base with
  | .noInput, .noInput => return .ofInt 0
  | .noInput, _ => fail (.misuse .arguments)
  | .int number mark, .noInput => return .int number mark
  | value, .noInput => do fresh (.int (← toWhole call value))
  | value, base => do
    let base ← wholeNumber call base
    if base ≠ 0 ∧ (base < 2 ∨ 36 < base) then
      fail (.badValue "int() base must be >= 2 and <= 36, or 0")
    else fresh (.int (← readWhole base value))

/-- A float of a value. -/
def newFloat (call : Caller) (value : Value) : Action Value := do
  match value with
  | .noInput => return .float 0.0 0
  | .float number mark => return .float number mark
  | value => do fresh (.float (← toFloat call value))

/-- A complex number of its two parts, each of which can be a complex number. -/
def newComplex (call : Caller) (real imaginary : Value) : Action Value := do
  let store ← store
  match real, imaginary, store.plainOf real, store.plainOf imaginary with
  | .complex a b mark, .noInput, _, _ => return .complex a b mark
  | _, .noInput, .text text _, _ =>
    match Number.Read.complex? text.toList with
    | some (a, b) => fresh (.complex a b)
    | none => fail (.badValue "complex() arg is a malformed string")
  | _, _, .text _ _, _ => fail (.misuse .arguments)
  | _, _, _, .text _ _ => fail (.misuse .arguments)
  | real, imaginary, _, _ => do
    let (a, b) ← match real with
      | .noInput => done (0.0, 0.0)
      | real => complexParts call real
    match imaginary with
    | .noInput => fresh (.complex a b)
    | .complex c d _ =>
      let isComplex := real.classId = ClassId.complex
      fresh (.complex (a - d) (if isComplex then c + b else c))
    | imaginary => do
      let c ← floatNumber call imaginary
      let isComplex := real.classId = ClassId.complex
      fresh (.complex a (if isComplex then c + b else c))

/-! ## Text and octets -/

/-- An argument, or what stands for it when it is left out. -/
def givenOr (value otherwise : Value) : Value :=
  match value with
  | .noInput => otherwise
  | value => value

/-- Text of a value, or of the octets that stand for it in an encoding. -/
def newText (call : Caller) (value encoding mode : Value) : Action Value := do
  match value, encoding, mode with
  | .noInput, _, _ => return .ofText ""
  | value, .noInput, .noInput => toText call value
  | value, encoding, mode => do
    match (← store).octetsOf? value with
    | some octets =>
      decodeOctets octets (givenOr encoding (.ofText "utf-8")) (givenOr mode (.ofText "strict"))
    | none => fail (.misuse .operands)

/-- So many octets that are all zero. -/
def emptyOctets (size : Int) : Action (List UInt8) :=
  if !Store.fitsSize size then fail Store.unfitIndex
  else if size < 0 then fail (.badValue "negative count")
  else if (Text.twoPow 32 : Int) ≤ size then fail (.foreign "MemoryError" "")
  else return List.replicate size.toNat 0

/-- Octets of a value: a number of them, text in an encoding, or the items of the value up to the
first fault; `range` is that of an item that is no octet. -/
def octetsReached (machine : Machine) (range : Fault) (source encoding mode : Value) :
    Action (Reached (List UInt8)) := do
  let call := machine.call
  let store ← store
  let isPlain := match encoding, mode with
    | .noInput, .noInput => true
    | _, _ => false
  match source, store.plainOf source with
  | .noInput, _ => if isPlain then return ([], none) else fail (.misuse .arguments)
  | _, .text text _ =>
    match encoding with
    | .noInput => fail (.misuse .operands)
    | encoding => whole (encodeText text.toList encoding (givenOr mode (.ofText "strict")))
  | source, plain => do
    if !isPlain then fail (.misuse .operands)
    match ← callSpecial? call source "__bytes__" [] with
    | some answer => whole (orFail (.misuse .operands) (store.octetsOf? answer))
    | none =>
      match Number.wholeOf? plain, store.octetsOf? source with
      | some size, _ => whole (emptyOctets size)
      | none, some octets => return (octets, none)
      | none, none =>
        match ← callSpecial? call source "__index__" [] with
        | some answer => whole (do emptyOctets (← wholeNumber call answer))
        | none => octetsUntil machine range source
where
  whole (octets : Action (List UInt8)) : Action (Reached (List UInt8)) := do
    return (← octets, none)

/-- Octets of a value. -/
def octetsFrom (machine : Machine) (range : Fault) (source encoding mode : Value) :
    Action (List UInt8) := do
  let (octets, fault) ← octetsReached machine range source encoding mode
  raised fault
  return octets

/-! ## Collections and iterations -/

/-- The whole numbers from one on, in steps, up to another. -/
def newRange (call : Caller) (start stop step : Value) : Action Value := do
  match stop with
  | .noInput => do fresh (.range 0 (← wholeNumber call start) 1)
  | stop => do
    let start ← wholeNumber call start
    let stop ← wholeNumber call stop
    let step ← match step with
      | .noInput => done 1
      | step => wholeNumber call step
    if step = 0 then fail (.badValue "range() arg 3 must not be zero")
    else fresh (.range start stop step)

/-- The items of a value by index, from the last one to the first. -/
def itemsFromEnd (call : Caller) (target : Value) : Nat → Action (List Value)
  | 0 => return []
  | left + 1 => do
    match ← callSpecial? call target "__getitem__" [.ofInt left] with
    | some item => return item :: (← itemsFromEnd call target left)
    | none => fail (.misuse .notIterable)

/-- Start to iterate over a value from its end. -/
def iterateBack (machine : Machine) (value : Value) : Action Value := do
  let store ← store
  match special? store value "__reversed__" with
  | some .absent => fail (.misuse .notIterable)
  | some found => callFound machine.call value found []
  | none =>
    match plainMethod? machine store value "__reversed__" [], store.plainOf value with
    | some started, _ => started
    | none, .tuple items _ => iterationOf "reversed" items.reverse
    | none, .text text _ => iterationOf "reversed" (characters text).reverse
    | none, plain =>
      match store.octetsOf? plain with
      | some octets => iterationOf "reversed" (octetValues octets).reverse
      | none =>
        if (special? store value "__getitem__").isSome then do
          let size ← lengthOf machine value
          iterationOf "reversed" (← itemsFromEnd machine.call value size.toNat)
        else fail (.misuse .notIterable)

/-! ## Parts of classes -/

/-- A wrapper of a function, which has the name and the words of the function. -/
def newWrapper (call : Caller) (id : ClassId) (function : Value) : Action Value := do
  let parts ← each ["__module__", "__name__", "__qualname__", "__doc__"]
  allocate id .plain (parts ++ [("__func__", function), ("__wrapped__", function)])
where
  each : List String → Action Bindings
    | [] => return []
    | name :: rest => do
      let found ← if ← hasAttribute call function name then
          done [(name, ← getAttribute call function name)]
        else done []
      return found ++ (← each rest)

/-- A property of some functions, with words of its own or those of the first function. -/
def newProperty (call : Caller) (id : ClassId) (parts : Bindings) : Action Value := do
  let fget := (parts.lookup "fget").getD .absent
  let doc ← match (parts.lookup "doc").getD .absent, fget with
    | .absent, .absent => done .absent
    | .absent, fget => do
      let found ← attribute? call fget "__doc__"
      done (found.getD .absent)
    | doc, _ => done doc
  allocate id .plain
    ((parts.filter fun (name, _) => name ≠ "doc") ++ [("__doc__", doc)])

/-- A new class, from its name, its bases and what its body binds. -/
def newClass (name bases body : Value) : Action Value := do
  let store ← store
  match store.plainOf name, bases, store.entriesOf? body with
  | .text name _, .tuple bases _, some entries => do
    let body := entries.filterMap fun (key, value) => key.asText?.map (·, value)
    if bases.any fun base => base.asClass?.isNone then fail (.misuse .notAClass)
    let home := match body.lookup "__module__" with
      | some (.text home _) => home
      | _ => "__main__"
    declareClass false name home bases [] body
  | _, _, _ => fail (.misuse .arguments)

/-- A view of one class through another. -/
def newSuper (id : ClassId) (type target : Value) : Action Value := do
  let store ← store
  match type, target with
  | .noInput, _ => fail (.foreign "RuntimeError" "super(): no arguments")
  | .cls _, .noInput => allocate id .plain
  | .cls _, .absent => allocate id .plain
  | .cls parent, .cls below =>
    if store.isSubclass below parent then allocate id .plain else fail (.misuse .operands)
  | .cls parent, target =>
    if store.isInstance target parent then allocate id .plain else fail (.misuse .operands)
  | _, _ => fail (.misuse .operands)

/-! ## All classes -/

/-- The source of a collection, or nothing if it is left out. -/
def sourceOr {α : Type} (source : Value) (otherwise : α) (action : Action α) : Action α :=
  match source with
  | .noInput => return otherwise
  | _ => action

/-- An instance of a class that is always there, from the values of its parameters. -/
def convertValues (machine : Machine) (id : ClassId) (values : List Value) : Action Value := do
  let call := machine.call
  match id.name, values with
  | "object", [] => allocate id .plain
  | "NoneType", [] => return .absent
  | "ellipsis", [] => return .ellipsis
  | "NotImplementedType", [] => return .declined
  | "bool", [value] => do
    return .bool (← sourceOr value false (truth machine value))
  | "int", [value, base] => newWhole call value base
  | "float", [value] => newFloat call value
  | "complex", [real, imaginary] => newComplex call real imaginary
  | "str", [value, encoding, mode] => newText call value encoding mode
  | "bytes", [.octets content mark, .noInput, .noInput] => return .octets content mark
  | "bytes", [source, encoding, mode] => do
    let range : Fault := .badValue "bytes must be in range(0, 256)"
    fresh (.octets (← octetsFrom machine range source encoding mode))
  | "bytearray", [source, encoding, mode] => do
    allocate id (.octets (← octetsFrom machine noOctet source encoding mode))
  | "list", [source] => do newList (← sourceOr source [] (itemsOf machine source))
  | "tuple", [.tuple items mark] => return .tuple items mark
  | "tuple", [source] => do
    let items ← sourceOr source [] (itemsOf machine source)
    fresh (.tuple items)
  | "set", [source] => do
    allocate id (.set (← sourceOr source {} (setFrom machine source)))
  | "frozenset", [source] => do
    if source.classId = id then return source
    else allocate id (.set (← sourceOr source {} (setFrom machine source)))
  | "dict", [.tuple sources _, named] => tableFrom machine sources named
  | "range", [start, stop, step] => newRange call start stop step
  | "slice", [stop, .noInput, _] => fresh (.slice .absent stop .absent)
  | "slice", [start, stop, step] => fresh (.slice start stop (givenOr step .absent))
  | "enumerate", [source, start] => do
    let start ← wholeNumber call start
    newIteration id.name (.numbered (← iterate machine source) start)
  | "zip", [.tuple sources _, strict] => do
    let strict ← truth machine strict
    newIteration id.name (.zipped (← iterateAll machine sources) strict)
  | "map", [function, source, .tuple others _] => do
    newIteration id.name (.mapped function (← iterateAll machine (source :: others)))
  | "filter", [function, source] => do
    newIteration id.name (.kept function (← iterate machine source))
  | "reversed", [source] => iterateBack machine source
  | "memoryview", [source] => do
    if ((← store).octetsOf? source).isSome then allocate id .plain else fail (.misuse .operands)
  | "mappingproxy", [source] => do
    newView (← orFail (.misuse .operands) ((← store).entriesOf? source))
  | "property", values => newProperty call id (["fget", "fset", "fdel", "doc"].zip values)
  | "type", [value, .noInput, .noInput] => return .ofClass value.classId
  | "type", [name, bases, body] => newClass name bases body
  | "super", [type, target] => newSuper id type target
  | _, [function] => newWrapper call id function
  | _, _ => fail (.misuse .arguments)

/-- An instance of one of the classes that are always there. -/
def convert (machine : Machine) (id : ClassId) (arguments : Arguments) : Action Value := do
  match conversionParameters? id.name with
  | some parameters => do convertValues machine id (← valuesFor id.name parameters arguments)
  | none => fail (.misuse .arguments)

/-- Fill an object anew the way that a new one of its class is filled; `none` for classes whose
instances stay as they are. -/
def refill? (machine : Machine) (id : ClassId) (receiver : Value) (arguments : Arguments) :
    Option (Action Unit) :=
  match receiver with
  | .object _ place =>
    if id = ClassId.dict then some do
      putArguments machine place arguments.positional (← newTable arguments.keywords)
    else if id = ClassId.octetArray then some do
      match ← valuesFor id.name ((conversionParameters? id.name).getD []) arguments with
      | [source, encoding, mode] => do
        perform (.setOctets place [])
        let (octets, fault) ← octetsReached machine noOctet source encoding mode
        perform (.setOctets place octets)
        raised fault
      | _ => fail (.misuse .arguments)
    else none
  | _ => none

end Deferred.Action
