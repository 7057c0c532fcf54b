import Deferred.Hint.Token
import Deferred.Text.Decimal

/-!
# Written annotations

An annotation is written as a name, a name with arguments in brackets, quoted text, a constant, or
a pattern.  `Form.read?` reads one and `Form.written` writes it back in the normal spelling: one
blank after each comma, quoted text with the usual marks.
-/

namespace Deferred.Hint

open Deferred.Text

/-- An annotation as it is written. -/
inductive Form where
  | name (id : String)
  | number (value : Int)
  /-- A number with a point or an exponent. -/
  | fraction (value : Float)
  /-- Quoted text; the flag tells whether it opens with the letter that says nothing. -/
  | text (value : String) (marked : Bool)
  | truth (value : Bool)
  | absent
  | ellipsis
  | tuple (items : List Form)
  | subscript (head index : Form)
  | member (head : Form) (part : String)
  | call (head : Form) (arguments : List Form)
  deriving Repr, Inhabited, BEq

namespace Form

mutual

/-- Read one annotation with its brackets. -/
def readForm : Nat → List Token → Option (Form × List Token)
  | 0, _ => none
  | bound + 1, input => do
    let (head, rest) ← readAtom bound input
    readBrackets bound head rest

/-- Read the arguments in brackets that follow a form. -/
def readBrackets : Nat → Form → List Token → Option (Form × List Token)
  | 0, _, _ => none
  | bound + 1, head, .sign '[' :: rest => do
    let (items, trailing, after) ← readItems bound ']' rest
    match items with
    | [] => none
    | [item] =>
      readBrackets bound (.subscript head (if trailing then .tuple [item] else item)) after
    | items => readBrackets bound (.subscript head (.tuple items)) after
  | bound + 1, head, .sign '.' :: .word part :: rest =>
    if isKeyword part then none else readBrackets bound (.member head part) rest
  | bound + 1, head, .sign '(' :: rest => do
    let (items, _, after) ← readItems bound ')' rest
    readBrackets bound (.call head items) after
  | _, head, rest => some (head, rest)

/-- Read an annotation without brackets. -/
def readAtom : Nat → List Token → Option (Form × List Token)
  | 0, _ => none
  | bound + 1, input =>
    match input with
    | .word "None" :: rest => some (.absent, rest)
    | .word "True" :: rest => some (.truth true, rest)
    | .word "False" :: rest => some (.truth false, rest)
    | .word id :: rest => if isKeyword id then none else some (.name id, rest)
    | .number value :: rest => some (.number value, rest)
    | .sign '-' :: .number value :: rest => some (.number (-value), rest)
    | .fraction value :: rest => some (.fraction value, rest)
    | .sign '-' :: .fraction value :: rest => some (.fraction (-value), rest)
    | .text value marked :: rest => some (.text value marked, rest)
    | .dots :: rest => some (.ellipsis, rest)
    | .sign '(' :: rest => do
      let (items, trailing, after) ← readItems bound ')' rest
      match items with
      | [item] => return (if trailing then .tuple [item] else item, after)
      | items => return (.tuple items, after)
    | _ => none

/-- Read items up to the closing mark, and whether a comma stood before it. -/
def readItems : Nat → Char → List Token → Option (List Form × Bool × List Token)
  | 0, _, _ => none
  | bound + 1, closing, input =>
    match input with
    | .sign mark :: rest =>
      if mark = closing then some ([], false, rest) else readMore bound closing input
    | _ => readMore bound closing input

/-- Read at least one item up to the closing mark. -/
def readMore : Nat → Char → List Token → Option (List Form × Bool × List Token)
  | 0, _, _ => none
  | bound + 1, closing, input => do
    let (item, rest) ← readForm bound input
    match rest with
    | .sign ',' :: .sign mark :: after =>
      if mark = closing then return ([item], true, after)
      let (items, trailing, last) ← readMore bound closing (.sign mark :: after)
      return (item :: items, trailing, last)
    | .sign ',' :: after =>
      let (items, trailing, last) ← readMore bound closing after
      return (item :: items, trailing, last)
    | .sign mark :: after => if mark = closing then return ([item], false, after) else none
    | _ => none

end

/-- Read a whole annotation. -/
def read? (text : String) : Option Form :=
  match Token.ofText? text with
  | none => none
  | some pieces =>
    match readForm (5 * pieces.length + 5) pieces with
    | some (form, []) => some form
    | _ => none

/-- Join texts with a comma and a blank between any two. -/
def commaJoined (items : List String) : String :=
  String.intercalate ", " items

mutual

/-- The normal spelling of an annotation. -/
def written : Form → String
  | name id => id
  | number value => toString value
  | fraction value =>
    if value.isInf then (if value < 0 then "-1e309" else "1e309") else floatText value
  | text value marked => (if marked then "u" else "") ++ quote value
  | truth value => if value then "True" else "False"
  | absent => "None"
  | ellipsis => "..."
  | tuple items =>
    match writtenAll items with
    | [item] => "(" ++ item ++ ",)"
    | items => "(" ++ commaJoined items ++ ")"
  | subscript head index => written head ++ "[" ++ writtenIndex index ++ "]"
  | member head part => written head ++ "." ++ part
  | call head arguments => written head ++ "(" ++ commaJoined (writtenAll arguments) ++ ")"

/-- The spelling between brackets, where several arguments need no parentheses. -/
def writtenIndex : Form → String
  | tuple [] => "()"
  | tuple [item] => written item ++ ","
  | tuple items => commaJoined (writtenAll items)
  | form => written form

def writtenAll : List Form → List String
  | [] => []
  | form :: rest => written form :: writtenAll rest

end

end Form

end Deferred.Hint
