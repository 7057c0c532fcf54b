import Deferred.Text.CodePoint

/-!
# Margins

The margin of a text is the longest run of blanks and tabs that opens every line with something else
on it.  Taking the margin away moves the text to the left as far as it goes: the lines that had
nothing but blanks and tabs become empty, all others lose the same characters.
-/

namespace Deferred.Text

/-- A character that a line can be indented with. -/
def indents (c : Char) : Bool := c = ' ' || c = '\t'

/-- A line with nothing on it when it has nothing but blanks and tabs. -/
def cleared (line : List Char) : List Char := if line.all indents then [] else line

/-- The longest common opening of two texts. -/
def commonPrefix : List Char → List Char → List Char
  | first :: rest, other :: others =>
    if first = other then first :: commonPrefix rest others else []
  | _, _ => []

/-- The blanks and tabs that open every line with something on it. -/
def commonIndent (lines : List (List Char)) : List Char :=
  match (lines.filter fun line => !line.isEmpty).map (List.takeWhile indents) with
  | [] => []
  | first :: rest => rest.foldl commonPrefix first

/-- The margin of some lines. -/
def marginOf (lines : List (List Char)) : List Char := commonIndent (lines.map cleared)

/-- Some lines without a margin. -/
def dedent (lines : List (List Char)) : List (List Char) :=
  lines.map fun line =>
    if (marginOf lines).isPrefixOf (cleared line) then
      (cleared line).drop (marginOf lines).length
    else cleared line

/-- How many characters of white space open a line. -/
def indentWidth (line : List Char) : Nat := (line.takeWhile CodePoint.blank).length

example : dedent ["    @deco".toList, "\t".toList, "    def pay(".toList, "      fee):".toList] =
    ["@deco".toList, [], "def pay(".toList, "  fee):".toList] := by decide

end Deferred.Text
