import Deferred.Text.CodePoint

/-!
# Names in generated code

A name is a starting character followed by continuing characters, and no keyword of the generated
text.  Names with the reserved opening are kept for the generated code itself.  A name with two
leading underscores that is written inside a class is private to that class: it stands for a
longer name that carries the name of the class.
-/

namespace Deferred.Text

/-- The opening of every name that generated code binds for itself. -/
def reservedOpening : String := "_cmdfy_"

/-- Words of the generated text that are never names. -/
def keywords : List String :=
  ["False", "None", "True", "and", "as", "assert", "async", "await", "break", "class", "continue",
    "def", "del", "elif", "else", "except", "finally", "for", "from", "global", "if", "import",
    "in", "is", "lambda", "nonlocal", "not", "or", "pass", "raise", "return", "try", "while",
    "with", "yield"]

/-- Is a text shaped like a name? -/
def isIdentifier (text : String) : Bool :=
  match text.toList with
  | [] => false
  | first :: rest => CodePoint.startsName first && rest.all CodePoint.continuesName

/-- Is a text one of the keywords? -/
def isKeyword (text : String) : Bool :=
  keywords.contains text

/-- A name that a declaration can introduce. -/
def isName (text : String) : Bool :=
  isIdentifier text && !isKeyword text

/-- Does a name have the reserved opening? -/
def isReserved (name : String) : Bool :=
  reservedOpening.toList.isPrefixOf name.toList

/-- The reserved name of something that generated code binds. -/
def reserved (name : String) : String :=
  reservedOpening ++ name

/-- Is a name private to the class it is written in: two leading underscores, and not two trailing
ones? -/
def isPrivate (name : List Char) : Bool :=
  ['_', '_'].isPrefixOf name && !(['_', '_'].isPrefixOf name.reverse)

/-- What a name written inside a class stands for.  A class whose name has nothing but underscores
has no private names. -/
def inClass (owner name : String) : String :=
  let bare := owner.toList.dropWhile (· == '_')
  if isPrivate name.toList && !bare.isEmpty then
    String.ofList ('_' :: (bare ++ name.toList))
  else name

theorem inClass_of_not_isPrivate {owner name : String} (h : isPrivate name.toList = false) :
    inClass owner name = name := by
  simp [inClass, h]

theorem isIdentifier_of_isName {text : String} (h : isName text = true) :
    isIdentifier text = true := by
  simp_all [isName]

@[simp] theorem isReserved_reserved (name : String) : isReserved (reserved name) = true := by
  simp [isReserved, reserved]

end Deferred.Text
