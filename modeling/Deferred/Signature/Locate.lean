import Deferred.Data.Entries
import Deferred.Span
import Deferred.Text.Margin
import Deferred.Text.Normal

/-!
# Finding the tokens of a definition

The text of a definition is read in a copy without its margin, since a definition inside another
block cannot be read where it stands.  The lines of the copy are those of the text, and a token
stands as far to the left in it as the first line was indented.  Where there is no text, or no
definition in it, only the line of the definition is known.
-/

namespace Deferred

/-- A token as it stands in a text: how it is written, the number of its line, counted from one, and
the bytes before it. -/
structure Token where
  written : String
  line : Nat
  column : Nat
  deriving DecidableEq, Repr, Inhabited

/-- The tokens of a definition that a diagnostic may point at.  The return annotation is written in
the normal spelling. -/
structure Heading where
  parameters : List Token
  returns : Option Token
  keywords : List Token
  deriving DecidableEq, Repr, Inhabited

namespace Heading

/-- The tokens that are names. -/
def names (heading : Heading) : List Token := heading.parameters ++ heading.keywords

end Heading

/-- What a text turns out to be. -/
inductive Reading where
  /-- The text does not parse. -/
  | refused
  /-- The text does not open with a definition. -/
  | other
  | definition (heading : Heading)
  deriving DecidableEq, Repr, Inhabited

namespace Source

/-- The lines of a text without their margin. -/
def dedented (lines : List String) : List String :=
  (Text.dedent (lines.map String.toList)).map String.ofList

/-- How many characters of white space open the first line. -/
def firstIndent (lines : List String) : Nat :=
  match lines with
  | [] => 0
  | first :: _ => Text.indentWidth first.toList

end Source

namespace SourceMap

/-- Find the tokens of a definition in its lines, the first of which has a number in the file;
`parse` reads a text.  Of several tokens with one name the last is kept, in the place of the
first. -/
def locate (parse : List String → Reading) (file : String) (line : Nat)
    (written : Option (List String × Nat)) : SourceMap :=
  match written with
  | none => { file, line }
  | some (lines, start) =>
    match parse (Source.dedented lines) with
    | .definition heading =>
      let span (token : Token) (segment : String) : Span :=
        { file, segment, line := start + token.line - 1
          column := token.column + Source.firstIndent lines }
      let entry (token : Token) : String × Span :=
        let name := Text.normalName token.written
        (name, span token name)
      { file, line := start
        parameters := Entries.putAll [] (heading.parameters.map entry)
        returns := heading.returns.map fun token => span token token.written
        keywords := Entries.putAll [] (heading.keywords.map entry) }
    | .refused => { file, line }
    | .other => { file, line }

end SourceMap

end Deferred
