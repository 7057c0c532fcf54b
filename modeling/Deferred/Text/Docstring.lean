import Deferred.Text.CodePoint

/-!
# Documentation text

The text documenting a routine is cleaned before it is shown or copied: tabs become blanks up to
the next multiple of eight columns, the blanks before the first line and the margin common to the
other lines go, and so do the empty lines at both ends.
-/

namespace Deferred.Text

/-- The lines of a text, split at line feeds only. -/
def splitLines : List Char → List (List Char)
  | [] => [[]]
  | c :: rest =>
    if c = '\n' then [] :: splitLines rest
    else
      match splitLines rest with
      | [] => [[c]]
      | line :: lines => (c :: line) :: lines

/-- The text of some lines, with a line feed between any two. -/
def joinLines : List (List Char) → List Char
  | [] => []
  | [line] => line
  | line :: lines => line ++ '\n' :: joinLines lines

theorem splitLines_ne_nil (text : List Char) : splitLines text ≠ [] := by
  induction text with
  | nil => simp [splitLines]
  | cons c rest ih =>
    unfold splitLines
    split
    · simp
    · split <;> simp

@[simp] theorem joinLines_splitLines (text : List Char) : joinLines (splitLines text) = text := by
  induction text with
  | nil => rfl
  | cons c rest ih =>
    unfold splitLines
    have nonempty := splitLines_ne_nil rest
    cases split : splitLines rest with
    | nil => exact absurd split nonempty
    | cons line lines =>
      rw [split] at ih
      by_cases newline : c = '\n'
      · simp [newline, joinLines, ih]
      · cases lines <;> simp_all [joinLines]

/-- Replace each tab by the blanks up to the next multiple of eight columns; `column` is the
column of the next character. -/
def expandTabs : Nat → List Char → List Char
  | _, [] => []
  | column, c :: rest =>
    if c = '\t' then
      let width := 8 - column % 8
      List.replicate width ' ' ++ expandTabs (column + width) rest
    else if c = '\n' ∨ c = '\r' then c :: expandTabs 0 rest
    else c :: expandTabs (column + 1) rest

/-- How many blanks open a line that is not blank throughout. -/
def indentation? (line : List Char) : Option Nat :=
  let content := line.dropWhile CodePoint.blank
  if content.isEmpty then none else some (line.length - content.length)

/-- The smallest indentation among the lines that are not blank, zero if there is none. -/
def margin (lines : List (List Char)) : Nat :=
  ((lines.filterMap indentation?).min?).getD 0

/-- Drop the empty lines at both ends. -/
def trimEmpty (lines : List (List Char)) : List (List Char) :=
  let front := lines.dropWhile List.isEmpty
  (front.reverse.dropWhile List.isEmpty).reverse

/-- The cleaned form of a documentation text. -/
def cleanDoc (text : String) : String :=
  match splitLines (expandTabs 0 text.toList) with
  | [] => ""
  | first :: others =>
    let indent := margin others
    String.ofList <| joinLines <| trimEmpty <|
      first.dropWhile CodePoint.blank :: others.map (List.drop indent)

end Deferred.Text
