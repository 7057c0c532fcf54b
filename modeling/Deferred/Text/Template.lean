import Deferred.Text.Layout

/-!
# Templates

A template is text with fields in it.  In the first kind a field stands between braces: what it is
filled with, how that is turned into text, and the layout, which can hold fields itself.  In the
second kind a field starts with a percent sign and ends with the letter of a conversion.
-/

namespace Deferred.Text

/-- A field between braces. -/
structure TemplateField where
  name : List Char
  conversion : Option Char := none
  spec : List Char := []
  /-- Does the layout hold fields itself? -/
  nested : Bool := false
  deriving Inhabited

/-- A part of a template. -/
inductive TemplatePart where
  | literal (letters : List Char)
  | field (field : TemplateField)
  deriving Inhabited

namespace TemplateField

/-- The name of a field, what ends it, and what follows.  A brace or a mark inside brackets belongs
to the name; `inBrackets` says whether a bracket is open. -/
def name? : Bool → List Char → Except String (List Char × Option Char × List Char)
  | _, [] => .ok ([], none, [])
  | inBrackets, c :: rest =>
    let longer (inBrackets : Bool) : Except String (List Char × Option Char × List Char) :=
      (name? inBrackets rest).map fun (name, ending, rest) => (c :: name, ending, rest)
    if inBrackets then longer (c ≠ ']')
    else if c = '\x7b' then .error "unexpected '\x7b' in field name"
    else if c = '[' then longer true
    else if c = '\x7d' || c = ':' || c = '!' then .ok ([], some c, rest)
    else longer false

/-- The layout of a field, whether it holds fields, and what follows; `depth` braces are open. -/
def layout? : Nat → List Char → Option (List Char × Bool × List Char)
  | _, [] => none
  | depth, c :: rest =>
    let longer (depth : Nat) (nested : Bool) : Option (List Char × Bool × List Char) :=
      (layout? depth rest).map fun (spec, other, rest) => (c :: spec, nested || other, rest)
    if c = '\x7b' then longer (depth + 1) true
    else if c = '\x7d' then
      match depth with
      | 0 => some ([], false, rest)
      | depth + 1 => longer depth false
    else longer depth false

/-- A field whose name and conversion are known, up to the end of its layout. -/
def withLayout (name : List Char) (conversion : Option Char) (rest : List Char) :
    Except String (TemplateField × List Char) :=
  match layout? 0 rest with
  | some (spec, nested, rest) => .ok ({ name, conversion, spec, nested }, rest)
  | none => .error "unmatched '\x7b' in format spec"

/-- The field behind an opening brace, and what follows it. -/
def parse (letters : List Char) : Except String (TemplateField × List Char) := do
  match ← name? false letters with
  | (name, some '\x7d', rest) => return ({ name }, rest)
  | (name, some ':', rest) => withLayout name none rest
  | (name, some _, rest) =>
    match rest with
    | [] => throw "end of string while looking for conversion specifier"
    | [_] => throw "unmatched '\x7b' in format spec"
    | conversion :: '\x7d' :: rest => return ({ name, conversion := some conversion }, rest)
    | conversion :: ':' :: rest => withLayout name (some conversion) rest
    | _ => throw "expected ':' after conversion specifier"
  | (_, none, _) => throw "expected '\x7d' before end of string"

end TemplateField

/-- The next part of a template and what follows it.  A brace that stands twice is text. -/
def nextPart (letters : List Char) : Except String (TemplatePart × List Char) :=
  let isBrace (c : Char) : Bool := c = '\x7b' || c = '\x7d'
  let literal := letters.takeWhile fun c => !isBrace c
  match letters.drop literal.length with
  | [] => .ok (.literal literal, [])
  | brace :: rest =>
    match rest with
    | next :: others =>
      if next = brace then .ok (.literal (literal ++ [brace]), others)
      else if brace = '\x7d' then .error "Single '\x7d' encountered in format string"
      else if !literal.isEmpty then .ok (.literal literal, brace :: rest)
      else (TemplateField.parse rest).map fun (field, rest) => (.field field, rest)
    | [] => .error ("Single '" ++ String.singleton brace ++ "' encountered in format string")

/-- A step from the value that a field starts with to a part of it. -/
inductive FieldStep where
  | part (name : List Char)
  | item (key : List Char)
  deriving Inhabited

/-- The number that a key is, if all of it are digits. -/
def keyNumber (key : List Char) : Except String (Option Nat) :=
  match Layout.size key with
  | .ok (some number, []) => .ok (some number)
  | .ok _ => .ok none
  | .error words => .error words

/-- The steps that a field name takes behind its first part, at most `bound` of them. -/
def fieldSteps : Nat → List Char → Except String (List FieldStep)
  | 0, _ => .ok []
  | _, [] => .ok []
  | bound + 1, '.' :: rest => do
    let name := rest.takeWhile fun c => c ≠ '.' && c ≠ '['
    if name.isEmpty then throw "Empty attribute in format string"
    return .part name :: (← fieldSteps bound (rest.drop name.length))
  | bound + 1, '[' :: rest => do
    let key := rest.takeWhile (· ≠ ']')
    match rest.drop key.length with
    | [] => throw "Missing ']' in format string"
    | _ :: rest =>
      if key.isEmpty then throw "Empty attribute in format string"
      return .item key :: (← fieldSteps bound rest)
  | _ + 1, _ :: _ => .error "Only '.' or '[' may follow ']' in format field specifier"

/-! ## Percent signs -/

/-- A width or a number of digits: written out, or taken from the values. -/
inductive Measure where
  | written (size : Nat)
  | taken
  deriving Inhabited

/-- A field that starts with a percent sign. -/
structure Conversion where
  /-- The key of the value, if the values are a table. -/
  key : Option (List Char) := none
  flags : List Char := []
  width : Option Measure := none
  precision : Option Measure := none
  letter : Char
  deriving Inhabited

namespace Conversion

/-- The key up to the parenthesis that closes it, and what follows; `depth` more are open. -/
def key? : Nat → List Char → Option (List Char × List Char)
  | _, [] => none
  | 0, ')' :: rest => some ([], rest)
  | depth, c :: rest =>
    let depth := if c = '(' then depth + 1 else if c = ')' then depth - 1 else depth
    (key? depth rest).map fun (key, rest) => (c :: key, rest)

/-- A measure at the start of a text, if there is one, and what follows. -/
def measure (limit : Nat) (words : String) :
    List Char → Except String (Option Measure × List Char)
  | '*' :: rest => .ok (some .taken, rest)
  | letters =>
    let digits := letters.takeWhile Char.isDigit
    let value := digits.foldl (fun sofar c => 10 * sofar + (c.toNat - 48)) 0
    if digits.isEmpty then .ok (none, letters)
    else if limit ≤ value then .error words
    else .ok (some (.written value), letters.drop digits.length)

/-- What stands behind a percent sign up to the letter of the conversion, the key left out. -/
def behindKey (key : Option (List Char)) (letters : List Char) :
    Except String (Conversion × List Char) := do
  let flags := letters.takeWhile fun c => ['-', '+', ' ', '#', '0'].contains c
  let (width, rest) ← measure (Nat.pow 2 63) "width too big" (letters.drop flags.length)
  let (precision, rest) ← match rest with
    | '.' :: rest => (measure (Nat.pow 2 31) "precision too big" rest).map fun (found, rest) =>
        (some (found.getD (.written 0)), rest)
    | rest => .ok (none, rest)
  let rest := match rest with
    | c :: others => if ['h', 'l', 'L'].contains c then others else c :: others
    | [] => []
  match rest with
  | letter :: rest => return ({ key, flags, width, precision, letter }, rest)
  | [] => throw "incomplete format"

end Conversion

end Deferred.Text
