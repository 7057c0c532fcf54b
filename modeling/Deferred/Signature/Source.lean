import Deferred.Hint.Form
import Deferred.Signature.Locate
import Deferred.Signature.Routine

/-!
# The text of a routine and its tokens

The text of a routine is a list of lines, and a line a list of pieces; a piece that some diagnostic
may point at carries a mark.  Writing the text and reading its tokens are two readings of the same
pieces: a token starts as many bytes into its line as the pieces before it take, and it is as far
from the end of the line when something was taken away in front of it.

A text that opens with white space does not parse.  So the tokens are found only when no line is
indented less than the first.
-/

namespace Deferred

/-- What a piece of text is, for those that a diagnostic may point at. -/
inductive TokenMark where
  | parameter
  | keyword
  /-- A return annotation, in the normal spelling. -/
  | returns (segment : String)
  deriving DecidableEq, Repr

/-- A piece of a line. -/
structure Piece where
  text : String
  mark : Option TokenMark := none
  deriving Repr

namespace Piece

/-- A piece that nothing points at. -/
def plain (text : String) : Piece := { text }

end Piece

/-- A line of text in pieces. -/
abbrev Line := List Piece

namespace Line

/-- The characters of a line. -/
def text (line : Line) : String :=
  String.join (line.map Piece.text)

/-- The marked pieces of a line, each with the bytes before it. -/
def marked (offset : Nat) : Line → List (TokenMark × String × Nat)
  | [] => []
  | piece :: rest =>
    let after := marked (offset + piece.text.utf8ByteSize) rest
    match piece.mark with
    | some mark => (mark, piece.text, offset) :: after
    | none => after

/-- The tokens of a line, found where what is left of it ends as the line does. -/
def tokens (line : Line) (number : Nat) (left : String) : List (TokenMark × Token) :=
  (line.marked 0).map fun (mark, written, offset) =>
    (mark, ⟨written, number, offset - (line.text.utf8ByteSize - left.utf8ByteSize)⟩)

end Line

namespace Layout

/-- A head with a list of items in parentheses: on one line, or one item a line. -/
def group (layout : Layout) (head : String) (items : List Line) (tail : Line) : List Line :=
  if layout.rows && !items.isEmpty then
    [.plain layout.indent, .plain (head ++ "(")] ::
      (items.map fun item => .plain layout.continuation :: (item ++ [.plain ","])) ++
      [.plain layout.indent :: .plain ")" :: tail]
  else
    [.plain layout.indent :: .plain (head ++ "(") ::
      (items.intersperse [.plain ", "]).flatten ++ .plain ")" :: tail]

/-- The lines of one decoration. -/
def decorationLines (layout : Layout) : Option (List String) → List Line
  | none => [[.plain layout.indent, .plain "@deco"]]
  | some keywords =>
    layout.group "@deco"
      (keywords.map fun keyword =>
        [{ text := keyword, mark := some .keyword }, .plain "=0"])
      []

end Layout

namespace WrittenParameter

/-- A parameter as it is written. -/
def line (parameter : WrittenParameter) : Line :=
  let tail := match parameter.hint, parameter.default with
    | none, none => ""
    | none, some value => "=" ++ value
    | some hint, none => ": " ++ hint
    | some hint, some value => ": " ++ hint ++ " = " ++ value
  [.plain parameter.kind.stars,
    { text := parameter.name, mark := some .parameter },
    .plain tail]

end WrittenParameter

namespace Source

/-- The items of a parameter list, with the marks that separate the kinds. -/
def parameterItems : Bool → List WrittenParameter → List Line
  | _, [] => []
  | starred, parameter :: rest =>
    let item := parameter.line
    match parameter.kind with
    | .positionalOnly =>
      let closes := !(rest.head?.any fun next => next.kind = .positionalOnly)
      item :: (if closes then [[.plain "/"]] else []) ++ parameterItems starred rest
    | .keywordOnly =>
      (if starred then [] else [[.plain "*"]]) ++ item :: parameterItems true rest
    | .variadic => item :: parameterItems true rest
    | _ => item :: parameterItems starred rest

/-- The return annotation in the normal spelling. -/
def returnSegment (written : String) : String :=
  match Hint.Form.read? written with
  | some form => form.written
  | none => written

/-- The lines of a definition. -/
def lines (source : Source) : List Line :=
  let layout := source.layout
  let head := (if source.form = .coroutine then "async def " else "def ") ++ source.name
  let tail : Line := match source.returns with
    | none => [.plain ":"]
    | some written =>
      [.plain " -> ", { text := written, mark := some (.returns (returnSegment written)) },
        .plain ":"]
  layout.decorations.flatMap layout.decorationLines ++
    layout.group head (parameterItems false source.parameters) tail ++
    (source.doc.map fun doc =>
      ([.plain layout.indent, .plain ("    " ++ Text.quote doc)] : Line)).toList ++
    [[.plain layout.indent, .plain "    return BODY(locals())"]]

/-- The tokens of some lines, where `left` is what is left of each. -/
def tokensFrom : Nat → List Line → List String → List (TokenMark × Token)
  | number, line :: lines, text :: left =>
    line.tokens number text ++ tokensFrom (number + 1) lines left
  | _, _, _ => []

/-- The heading that some tokens make up. -/
def headingOf (tokens : List (TokenMark × Token)) : Heading where
  parameters := tokens.filterMap fun (mark, token) => if mark = .parameter then some token else none
  keywords := tokens.filterMap fun (mark, token) => if mark = .keyword then some token else none
  returns := tokens.findSome? fun (mark, token) =>
    match mark with
    | .returns segment => some { token with written := segment }
    | _ => none

/-- Does a text open with white space? -/
def opensBlank (text : List String) : Bool :=
  (text.head?.bind fun line => line.toList.head?).any Text.CodePoint.blank

/-- Read what is left of the text of a definition. -/
def parse (source : Source) (text : List String) : Reading :=
  if opensBlank text then .refused
  else if source.form = .anonymous then .other
  else .definition (headingOf (tokensFrom 1 source.lines text))

/-- The endings of files that hold no text. -/
def closedEndings : List String :=
  [".pyc", ".so", ".abi3.so", ".cpython-311-x86_64-linux-gnu.so"]

/-- Can the text of a file be looked up by the name of the file? -/
def isTextFile (file : String) : Bool :=
  file ≠ "" && !closedEndings.any fun ending => file.endsWith ending

/-- The lines of the text and the number of the first one, if they can be read back. -/
def written? (source : Source) : Option (List String × Nat) :=
  if source.layout.readable && isTextFile source.layout.file then
    some (source.lines.map Line.text, source.layout.line)
  else none

/-- Can the text be read back as that of a definition? -/
def isReadable (source : Source) : Bool :=
  match source.written? with
  | none => false
  | some (lines, _) =>
    match source.parse (dedented lines) with
    | .definition _ => true
    | _ => false

end Source

/-- The places of the tokens of a routine. -/
def Routine.locate (routine : Routine) : SourceMap :=
  .locate routine.source.parse routine.file routine.line routine.source.written?

end Deferred
