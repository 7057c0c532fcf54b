import Deferred.Text.Letter

/-!
# Layouts

A layout says how a value is written into a field: how wide the field is, what fills it and on which
side, how the sign is shown, whether digits are grouped, how many of them there are, and which form
a number has.  A layout is written as a short text, its parts in a fixed order.
-/

namespace Deferred.Text

/-- Where what is written stands in a wider field. -/
inductive Alignment where
  | left
  | right
  | center
  /-- The field is filled behind the sign. -/
  | behindSign
  deriving DecidableEq, Repr, Inhabited

/-- The alignment that a character stands for. -/
def Alignment.ofChar? : Char → Option Alignment
  | '<' => some .left
  | '>' => some .right
  | '^' => some .center
  | '=' => some .behindSign
  | _ => none

/-- How a value is written into a field. -/
structure Layout where
  fill : Char := ' '
  alignment : Alignment
  /-- What stands before a number that is not negative. -/
  sign : Option Char := none
  /-- Is the sign of a number left out when all its digits are zero? -/
  plainZero : Bool := false
  alternate : Bool := false
  width : Option Nat := none
  /-- What stands between groups of digits. -/
  separator : Option Char := none
  precision : Option Nat := none
  /-- The form of a number, by its letter. -/
  form : Option Char := none
  deriving Inhabited

namespace Layout

/-- A whole number at the start of a text, if there is one, and what follows it. -/
def number? (letters : List Char) : Option Nat × List Char :=
  let digits := letters.takeWhile fun c => (Letter.decimal? c).isSome
  let value := digits.foldl (fun sofar c => 10 * sofar + (Letter.decimal? c).getD 0) 0
  (if digits.isEmpty then none else some value, letters.drop digits.length)

/-- The number at the start of a text, which must not be too large. -/
def size (letters : List Char) : Except String (Option Nat × List Char) :=
  match number? letters with
  | (some value, rest) =>
    if value < Nat.pow 2 63 then .ok (some value, rest)
    else .error "Too many decimal digits in format string"
  | found => .ok found

/-- A character that a text starts with, if it does, and what follows. -/
def skip (c : Char) : List Char → Bool × List Char
  | first :: rest => if first = c then (true, rest) else (false, first :: rest)
  | [] => (false, [])

/-- A character in a message: itself, or by its code point. -/
def inMessage (c : Char) : String :=
  if 32 < c.toNat && c.toNat < 128 then String.singleton c
  else "\\x" ++ String.ofList (Nat.toDigits 16 c.toNat)

/-- The fill and the alignment that a layout starts with. -/
def opening : List Char → Option Char × Option Alignment × List Char
  | first :: second :: rest =>
    match Alignment.ofChar? second, Alignment.ofChar? first with
    | some alignment, _ => (some first, some alignment, rest)
    | none, some alignment => (none, some alignment, second :: rest)
    | none, none => (none, none, first :: second :: rest)
  | [first] =>
    match Alignment.ofChar? first with
    | some alignment => (none, some alignment, [])
    | none => (none, none, [first])
  | [] => (none, none, [])

/-- What stands between groups of digits, and what follows. -/
def separation (letters : List Char) : Except String (Option Char × List Char) :=
  let both := "Cannot specify both ',' and '_'."
  match letters with
  | ',' :: '_' :: _ => .error both
  | ',' :: rest => .ok (some ',', rest)
  | '_' :: ',' :: _ => .error both
  | '_' :: rest => .ok (some '_', rest)
  | rest => .ok (none, rest)

/-- The number of digits that a layout asks for, and what follows. -/
def digitCount (letters : List Char) : Except String (Option Nat × List Char) :=
  match letters with
  | '.' :: rest => do
    match ← size rest with
    | (none, _) => throw "Format specifier missing precision"
    | found => return found
  | rest => .ok (none, rest)

/-- Can digits be grouped in a form? -/
def grouped? (layout : Layout) (form : Char) : Bool :=
  match layout.separator with
  | none => true
  | some separator =>
    ['d', 'e', 'f', 'g', 'E', 'G', '%', 'F'].contains form ||
      (separator = '_' && ['b', 'o', 'x', 'X'].contains form)

/-- The layout that a text describes, for a value of a class; `usual` is the form of such values when
none is named. -/
def parse (alignment : Alignment) (usual : Option Char) (className : String) (text : String) :
    Except String Layout := do
  let (fill, given, rest) := opening text.toList
  let (sign, rest) := match rest with
    | c :: rest => if [' ', '+', '-'].contains c then (some c, rest) else (none, c :: rest)
    | [] => (none, [])
  let (plainZero, rest) := skip 'z' rest
  let (alternate, rest) := skip '#' rest
  let (zero, rest) := if fill.isNone then skip '0' rest else (false, rest)
  let (width, rest) ← size rest
  let (separator, rest) ← separation rest
  let (precision, rest) ← digitCount rest
  let layout : Layout :=
    { fill := fill.getD (if zero then '0' else ' ')
      alignment := given.getD (if zero && alignment = .right then .behindSign else alignment)
      sign, plainZero, alternate, width, separator, precision }
  match rest with
  | _ :: _ :: _ =>
    throw ("Invalid format specifier '" ++ text ++ "' for object of type '" ++ className ++ "'")
  | [form] =>
    if layout.grouped? form then return { layout with form := some form }
    else throw ("Cannot specify '" ++ (separator.map inMessage).getD "" ++ "' with '" ++
      inMessage form ++ "'.")
  | [] =>
    match usual with
    | some form =>
      if layout.grouped? form then return layout
      else throw ("Cannot specify '" ++ (separator.map inMessage).getD "" ++ "' with '" ++
        inMessage form ++ "'.")
    | none => return layout

/-- What is said of a form that values of a class do not have. -/
def unknownForm (form : Char) (className : String) : String :=
  "Unknown format code '" ++ inMessage form ++ "' for object of type '" ++ className ++ "'"

/-! ## Filling fields -/

/-- Some characters in a field, filled on the side that the alignment leaves free. -/
def place (layout : Layout) (before letters : List Char) : List Char :=
  let missing := layout.width.getD 0 - (before.length + letters.length)
  let filling (count : Nat) : List Char := List.replicate count layout.fill
  match layout.alignment with
  | .left => before ++ letters ++ filling missing
  | .right => filling missing ++ before ++ letters
  | .center =>
    filling (missing / 2) ++ before ++ letters ++ filling (missing - missing / 2)
  | .behindSign => before ++ filling missing ++ letters

/-- A field is as wide as the layout asks for, or as what is written in it. -/
theorem length_place (layout : Layout) (before letters : List Char) :
    (layout.place before letters).length =
      max (layout.width.getD 0) (before.length + letters.length) := by
  unfold place
  cases layout.alignment <;> simp <;> omega

/-- A text in a field. -/
def ofText (layout : Layout) (letters : List Char) : Except String (List Char) :=
  match layout.sign with
  | some ' ' => .error "Space not allowed in string format specifier"
  | some _ => .error "Sign not allowed in string format specifier"
  | none =>
    if layout.plainZero then
      .error "Negative zero coercion (z) not allowed in string format specifier"
    else if layout.alternate then
      .error "Alternate form (#) not allowed in string format specifier"
    else if layout.alignment = .behindSign then
      .error "'=' alignment not allowed in string format specifier"
    else
      .ok (layout.place [] ((layout.precision.map letters.take).getD letters))

/-- Digits in groups, the last digit first, with zeros in front of them until `least` characters are
there. -/
def inGroups (separator : Char) (size : Nat) : Nat → Nat → List Char → List Char
  | 0, _, digits => digits
  | bound + 1, least, digits =>
    let count := min size (max (max digits.length least) 1)
    let group := digits.take count ++ List.replicate (count - digits.length) '0'
    let rest := digits.drop count
    if rest.isEmpty && least ≤ count then group
    else group ++ separator :: inGroups separator size bound (least - count - 1) rest

/-- Digits as a layout groups them, with zeros in front of them until `least` characters are
there. -/
def grouping (layout : Layout) (least : Nat) (digits : List Char) : List Char :=
  if digits.isEmpty then []
  else
    match layout.separator with
    | none => List.replicate (least - digits.length) '0' ++ digits
    | some separator =>
      let isBits := (layout.form.map fun form => ['b', 'o', 'x', 'X'].contains form).getD false
      (inGroups separator (if isBits then 4 else 3) (least + digits.length) least
        digits.reverse).reverse

/-- The sign of a number as it is shown. -/
def signText (layout : Layout) (negative : Bool) : List Char :=
  if negative then ['-']
  else match layout.sign with
    | some '+' => ['+']
    | some ' ' => [' ']
    | _ => []

/-- A number in a field: its sign, what stands before its digits, the digits that are grouped, and
what stands behind them. -/
def ofDigits (layout : Layout) (negative : Bool) (before digits behind : List Char) : List Char :=
  let opening := layout.signText negative ++ before
  let others := opening.length + behind.length
  let least :=
    if layout.fill = '0' && layout.alignment = .behindSign then layout.width.getD 0 - others else 0
  layout.place opening (layout.grouping least digits ++ behind)

end Layout

end Deferred.Text
