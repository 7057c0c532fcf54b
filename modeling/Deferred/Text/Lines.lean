/-!
# Lines

The lines of a text that was written somewhere.  A line ends at any of the characters that end a
line, a carriage return and the line feed behind it being one end; the end of the last line opens no
further one.
-/

namespace Deferred.Text

/-- Does a character end a line? -/
def endsLine (c : Char) : Bool :=
  ['\n', '\r', '\x0b', '\x0c', '\x1c', '\x1d', '\x1e', '\u0085', '\u2028', '\u2029'].contains c

/-- The lines of some characters; `line` holds the characters of the open line, last one first. -/
def linesFrom (line : List Char) : List Char → List String
  | [] => if line.isEmpty then [] else [String.ofList line.reverse]
  | '\r' :: '\n' :: rest => String.ofList line.reverse :: linesFrom [] rest
  | c :: rest =>
    if endsLine c then String.ofList line.reverse :: linesFrom [] rest
    else linesFrom (c :: line) rest

/-- The lines of a text. -/
def lines (text : String) : List String := linesFrom [] text.toList

end Deferred.Text
