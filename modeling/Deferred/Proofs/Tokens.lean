import Deferred.Proofs.Margins
import Deferred.Signature.Source

/-!
# Tokens in a text that lost its margin

The names of a definition stand in its text where the pieces before them end.  Taking a margin away
shortens every line by the same characters in front of the names, so they are as far from the end of
their line as before.  A text that opens with white space does not parse, so whenever what is left
parses the margin was all the white space that opened the first line.
-/

namespace Deferred

open Text

/-- A token stands in a text: its line holds it behind so many bytes. -/
structure Token.StandsIn (token : Token) (text : List String) : Prop where
  isSome : token.written ≠ ""
  counted : 1 ≤ token.line
  found : ∃ line before after, text[token.line - 1]? = some line ∧
    line = before ++ token.written ++ after ∧ before.utf8ByteSize = token.column

namespace Source

variable {parse : List String → Reading} {texts : List String} {number start : Nat}
  {left : String}

/-- There is something besides white space on the first of some lines. -/
def Opens (texts : List String) : Prop :=
  ∃ first rest, texts = first :: rest ∧ ∃ c ∈ first.toList, CodePoint.blank c = false

/-- What is relied on when the lines of a definition are read back from a file and parsed: the lines
are there, from the one that the number says, and where their text parses without its margin, no
white space opens it and the names stand where reading it says. -/
structure IsRead (parse : List String → Reading) (texts : List String) (start : Nat)
    (whole : List String) : Prop where
  counted : 1 ≤ start
  isPart : texts <+: whole.drop (start - 1)
  opens : Opens texts
  flush : ∀ heading, parse (dedented texts) = .definition heading →
    opensBlank (dedented texts) = false
  placed : ∀ heading, parse (dedented texts) = .definition heading →
    ∀ token ∈ heading.names, token.StandsIn (dedented texts)

/-! ## Lines without their margin -/

theorem utf8ByteSize_ofList {letters : List Char} (small : ∀ c ∈ letters, indents c = true) :
    (String.ofList letters).utf8ByteSize = letters.length := by
  induction letters with
  | nil => rfl
  | cons c rest ih =>
    have isIndent := small c List.mem_cons_self
    rw [indents, Bool.or_eq_true, decide_eq_true_eq, decide_eq_true_eq] at isIndent
    have one : c.utf8Size = 1 := by rcases isIndent with rfl | rfl <;> rfl
    rw [String.ofList_cons, String.utf8ByteSize_append, String.utf8ByteSize_singleton, one,
      ih fun other isIn => small other (List.mem_cons_of_mem _ isIn), List.length_cons,
      Nat.add_comm]

/-- The margin that is taken away in front of the lines of a text. -/
def margin (texts : List String) : String := String.ofList (marginOf (texts.map String.toList))

theorem getElem?_dedented (isLeft : (dedented texts)[number]? = some left) :
    (dedent (texts.map String.toList))[number]? = some left.toList := by
  rw [dedented, List.getElem?_map] at isLeft
  obtain ⟨letters, isLetters, rfl⟩ := Option.map_eq_some_iff.mp isLeft
  rw [isLetters, String.toList_ofList]

theorem utf8ByteSize_margin {letters : List Char}
    (isLeft : (dedent (texts.map String.toList))[number]? = some letters)
    (something : letters ≠ []) :
    (margin texts).utf8ByteSize = (marginOf (texts.map String.toList)).length := by
  obtain ⟨line, -, opens, -⟩ := eq_of_dedent isLeft something
  exact utf8ByteSize_ofList fun c isIn => List.mem_takeWhile_imp (opens.subset isIn)

/-- A line that something is left of is the margin and what is left. -/
theorem eq_of_dedented (isLeft : (dedented texts)[number]? = some left) (something : left ≠ "") :
    texts[number]? = some (margin texts ++ left) := by
  obtain ⟨letters, isLine, -, isWhole⟩ := eq_of_dedent (getElem?_dedented isLeft)
    fun isNone => something (String.toList_eq_nil_iff.mp isNone)
  rw [List.getElem?_map] at isLine
  obtain ⟨line, isOne, rfl⟩ := Option.map_eq_some_iff.mp isLine
  rw [isOne, margin]
  refine congrArg some (String.toList_inj.mp ?_)
  rw [String.toList_append, String.toList_ofList]
  exact isWhole

theorem blank_of_mem_margin {c : Char}
    (isLeft : (dedented texts)[number]? = some left) (something : left ≠ "")
    (isIn : c ∈ (margin texts).toList) : CodePoint.blank c = true := by
  rw [margin, String.toList_ofList] at isIn
  exact blank_of_mem_marginOf (getElem?_dedented isLeft)
    (fun isNone => something (String.toList_eq_nil_iff.mp isNone)) isIn

/-- Something is left of a line that has more than white space on it. -/
theorem dedented_ne_empty {line : String} {c : Char}
    (isLine : texts[number]? = some line) (isIn : c ∈ line.toList)
    (visible : CodePoint.blank c = false) :
    ∃ left, (dedented texts)[number]? = some left ∧ left ≠ "" := by
  have isOne : (texts.map String.toList)[number]? = some line.toList := by
    rw [List.getElem?_map, isLine]
    rfl
  obtain ⟨left, isLeft, something⟩ := dedent_ne_nil isOne isIn visible
  refine ⟨String.ofList left, by rw [dedented, List.getElem?_map, isLeft]; rfl, fun isNone => ?_⟩
  rw [← String.toList_eq_nil_iff, String.toList_ofList] at isNone
  exact something isNone

/-- Where no white space is left in front of the first line, the margin was all that opened it. -/
theorem firstIndent_eq {first : String} {rest : List String} {c : Char}
    (isIn : c ∈ first.toList) (visible : CodePoint.blank c = false)
    (flush : opensBlank (dedented (first :: rest)) = false) :
    firstIndent (first :: rest) = (margin (first :: rest)).utf8ByteSize := by
  have isFirst : ((first :: rest).map String.toList)[0]? = some first.toList := rfl
  obtain ⟨left, isLeft, something⟩ := dedent_ne_nil isFirst isIn visible
  have isFlush : left.head?.any CodePoint.blank = false := by
    have isHead := List.head?_eq_getElem?.trans isLeft
    rw [← flush, opensBlank, dedented, List.head?_map, isHead, Option.map_some, Option.bind_some,
      String.toList_ofList]
  obtain ⟨line, isLine, isWidth⟩ := indentWidth_of_dedent isLeft something isFlush
  cases isFirst.symm.trans isLine
  rw [utf8ByteSize_margin isLeft something, firstIndent, isWidth]

/-- A token of a text without its margin stands in the text, moved by the indentation of the first
line. -/
theorem standsIn_of_dedented {token : Token} (opens : Opens texts)
    (flush : opensBlank (dedented texts) = false) (stands : token.StandsIn (dedented texts)) :
    { token with column := token.column + firstIndent texts }.StandsIn texts := by
  obtain ⟨line, before, after, isLine, rfl, isColumn⟩ := stands.found
  have something : before ++ token.written ++ after ≠ "" := by
    intro isNone
    have isEmpty := congrArg String.utf8ByteSize isNone
    rw [String.utf8ByteSize_append, String.utf8ByteSize_append] at isEmpty
    have isSome := String.utf8ByteSize_eq_zero_iff.not.mpr stands.isSome
    change _ = 0 at isEmpty
    omega
  refine ⟨stands.isSome, stands.counted, _, margin texts ++ before, after,
    eq_of_dedented isLine something, ?_, ?_⟩
  · rw [String.append_assoc, String.append_assoc, String.append_assoc]
  · obtain ⟨first, rest, rfl, c, isIn, visible⟩ := opens
    rw [String.utf8ByteSize_append, isColumn, firstIndent_eq isIn visible flush, Nat.add_comm]

/-- What opens with something visible stands behind the margin. -/
theorem margin_of_append {margin before rest left : List Char} {c : Char}
    (blanks : ∀ c ∈ margin, CodePoint.blank c = true) (visible : CodePoint.blank c = false)
    (same : before ++ c :: rest = margin ++ left) : ∃ between, before = margin ++ between ∧
      left = between ++ c :: rest := by
  rcases List.append_eq_append_iff.mp same with
    ⟨between, isMargin, isRest⟩ | ⟨between, isBefore, isLeft⟩
  · cases between with
    | nil => exact ⟨[], by simpa using isMargin.symm, by simpa using isRest.symm⟩
    | cons first others =>
      obtain ⟨rfl, -⟩ := List.cons.inj isRest
      rw [blanks c (by rw [isMargin]; simp)] at visible
      cases visible
  · exact ⟨between, isBefore, isLeft⟩

theorem split_of_margin {margin left before written after : String} {c : Char}
    (blanks : ∀ c ∈ margin.toList, CodePoint.blank c = true)
    (opens : written.toList.head? = some c) (visible : CodePoint.blank c = false)
    (same : before ++ written ++ after = margin ++ left) :
    ∃ between, before = margin ++ between ∧ left = between ++ written ++ after := by
  cases isWritten : written.toList with
  | nil => simp [isWritten] at opens
  | cons first rest =>
    obtain rfl : first = c := by simpa [isWritten] using opens
    have letters := congrArg String.toList same
    rw [String.toList_append, String.toList_append, String.toList_append, isWritten,
      List.append_assoc, List.cons_append] at letters
    obtain ⟨between, isBefore, isLeft⟩ := margin_of_append blanks visible letters
    refine ⟨String.ofList between, String.toList_inj.mp ?_, String.toList_inj.mp ?_⟩
    · rw [String.toList_append, String.toList_ofList, isBefore]
    · rw [String.toList_append, String.toList_append, String.toList_ofList, isLeft, isWritten,
        List.append_assoc, List.cons_append]

end Source

/-! ## The pieces of a line -/

namespace Line

variable {line : Line}

theorem text_cons (piece : Piece) (line : Line) :
    Line.text (piece :: line) = piece.text ++ Line.text line := by
  simp [Line.text]

/-- A marked piece stands behind the pieces before it. -/
theorem of_mem_marked {offset column : Nat} {mark : TokenMark} {written : String}
    (isIn : (mark, written, column) ∈ line.marked offset) :
    ∃ before after, line.text = before ++ written ++ after ∧
      column = offset + before.utf8ByteSize := by
  induction line generalizing offset with
  | nil => cases isIn
  | cons first rest ih =>
    have ofRest : (mark, written, column) ∈ Line.marked (offset + first.text.utf8ByteSize) rest →
        ∃ before after, Line.text (first :: rest) = before ++ written ++ after ∧
          column = offset + before.utf8ByteSize := by
      intro isLater
      obtain ⟨before, after, isText, isColumn⟩ := ih isLater
      refine ⟨first.text ++ before, after, ?_, ?_⟩
      · rw [text_cons, isText, String.append_assoc, String.append_assoc, String.append_assoc]
      · rw [isColumn, String.utf8ByteSize_append, Nat.add_assoc]
    rw [marked] at isIn
    split at isIn
    · rcases List.mem_cons.mp isIn with isFirst | isLater
      · cases isFirst
        refine ⟨"", Line.text rest, ?_, rfl⟩
        rw [text_cons, String.empty_append]
      · exact ofRest isLater
    · exact ofRest isIn

/-- The marked pieces of a line. -/
def marks (line : Line) : List (TokenMark × String) :=
  line.filterMap fun piece => piece.mark.map (·, piece.text)

@[simp] theorem marks_nil : marks [] = [] := rfl

@[simp] theorem marks_plain (text : String) (line : Line) :
    marks (.plain text :: line) = marks line := rfl

@[simp] theorem marks_append (line other : Line) :
    marks (line ++ other) = marks line ++ marks other := List.filterMap_append

theorem map_marked (line : Line) (offset : Nat) :
    (line.marked offset).map (fun found => (found.1, found.2.1)) = line.marks := by
  induction line generalizing offset with
  | nil => rfl
  | cons piece rest ih =>
    rw [marked, marks, List.filterMap_cons]
    cases isMark : piece.mark with
    | none => exact ih _
    | some mark => exact congrArg _ (ih _)

end Line

/-! ## The text of a definition -/

namespace Source

variable {source : Source} {lines : List Line} {texts : List String} {number start : Nat}
  {mark : TokenMark} {token : Token}

/-! ### Which tokens there are -/

theorem map_tokensFrom {lines : List Line} {texts : List String}
    (same : texts.length = lines.length) (number : Nat) :
    (tokensFrom number lines texts).map (fun found => (found.1, found.2.written)) =
      lines.flatMap Line.marks := by
  induction lines generalizing texts number with
  | nil =>
    cases texts with
    | nil => rfl
    | cons text texts => cases same
  | cons line lines ih =>
    cases texts with
    | nil => cases same
    | cons text texts =>
      rw [tokensFrom, List.map_append, List.flatMap_cons, ih (Nat.succ.inj same), Line.tokens,
        List.map_map]
      exact congrArg (· ++ _) (line.map_marked 0)

theorem marks_intersperse (items : List Line) (text : String) :
    Line.marks (items.intersperse [.plain text]).flatten = items.flatMap Line.marks := by
  induction items with
  | nil => rfl
  | cons item rest ih =>
    cases rest with
    | nil => simp
    | cons next rest =>
      rw [List.intersperse_cons_cons, List.flatten_cons, List.flatten_cons, Line.marks_append,
        List.flatMap_cons, ← ih]
      rfl

theorem marks_group (layout : Layout) (head : String) (items : List Line) (tail : Line) :
    (layout.group head items tail).flatMap Line.marks =
      items.flatMap Line.marks ++ Line.marks tail := by
  rw [Layout.group]
  split
  · simp only [List.cons_append, List.flatMap_cons, List.flatMap_append, List.flatMap_map,
      Line.marks_plain, Line.marks_append, Line.marks_nil, List.append_nil, List.nil_append,
      List.flatMap_nil]
  · simp only [List.flatMap_cons, Line.marks_plain, Line.marks_append, marks_intersperse,
      List.cons_append, List.flatMap_nil, List.append_nil]

theorem marks_decorationLines (layout : Layout) (decoration : Option (List String)) :
    (layout.decorationLines decoration).flatMap Line.marks =
      (decoration.getD []).map (TokenMark.keyword, ·) := by
  cases decoration with
  | none => rfl
  | some keywords =>
    rw [Layout.decorationLines, marks_group, List.flatMap_map]
    simp only [Line.marks_nil, List.append_nil]
    exact List.flatMap_pure_eq_map _ _

theorem marks_parameterItems (starred : Bool) (parameters : List WrittenParameter) :
    (parameterItems starred parameters).flatMap Line.marks =
      parameters.map fun parameter => (TokenMark.parameter, parameter.name) := by
  induction parameters generalizing starred with
  | nil => rfl
  | cons parameter rest ih =>
    have ofLine : Line.marks parameter.line = [(TokenMark.parameter, parameter.name)] := rfl
    rw [parameterItems]
    split
    · dsimp only
      split <;> simp [ofLine, ih]
    · split <;> simp [ofLine, ih]
    · simp [ofLine, ih]
    · simp [ofLine, ih]

theorem marks_lines (source : Source) : source.lines.flatMap Line.marks =
    (source.layout.decorations.flatMap fun decoration => decoration.getD []).map
        (TokenMark.keyword, ·) ++
      source.parameters.map (fun parameter => (TokenMark.parameter, parameter.name)) ++
      (source.returns.map fun text => (TokenMark.returns (returnSegment text), text)).toList := by
  have ofDecorations : (source.layout.decorations.flatMap source.layout.decorationLines).flatMap
      Line.marks = (source.layout.decorations.flatMap fun decoration => decoration.getD []).map
        (TokenMark.keyword, ·) := by
    rw [List.flatMap_assoc, List.map_flatMap]
    exact List.flatMap_congr fun decoration _ => marks_decorationLines _ decoration
  rw [lines]
  simp only [List.flatMap_append, marks_group, marks_parameterItems, ofDecorations,
    List.append_assoc]
  cases source.doc <;> cases source.returns <;> simp [Line.marks, Piece.plain]

/-! ### Where they stand -/

theorem of_mem_tokensFrom (isIn : (mark, token) ∈ tokensFrom number lines texts) :
    ∃ index, ∃ line : Line, ∃ text, lines[index]? = some line ∧ texts[index]? = some text ∧
      (mark, token) ∈ line.tokens (number + index) text := by
  induction lines generalizing number texts with
  | nil => simp [tokensFrom] at isIn
  | cons line lines ih =>
    cases texts with
    | nil => simp [tokensFrom] at isIn
    | cons text texts =>
      rw [tokensFrom] at isIn
      rcases List.mem_append.mp isIn with isFirst | isLater
      · exact ⟨0, line, text, rfl, rfl, isFirst⟩
      · obtain ⟨index, found, left, isLine, isText, isToken⟩ := ih isLater
        exact ⟨index + 1, found, left, isLine, isText, by rwa [Nat.add_comm index, ← Nat.add_assoc]⟩

/-- The names in some lines open with something visible. -/
def Visible (lines : List Line) : Prop :=
  ∀ found ∈ lines.flatMap Line.marks, found.1 = .parameter ∨ found.1 = .keyword →
    ∃ c, found.2.toList.head? = some c ∧ CodePoint.blank c = false

theorem standsIn_of_tokensFrom (visible : Visible lines)
    (isName : mark = .parameter ∨ mark = .keyword)
    (isIn : (mark, token) ∈ tokensFrom 1 lines (dedented (lines.map Line.text))) :
    token.StandsIn (dedented (lines.map Line.text)) := by
  obtain ⟨index, line, left, isLine, isLeft, isToken⟩ := of_mem_tokensFrom isIn
  rw [Line.tokens] at isToken
  obtain ⟨⟨mark, written, offset⟩, isMarked, isSame⟩ := List.mem_map.mp isToken
  cases isSame
  obtain ⟨before, after, isText, isColumn⟩ := Line.of_mem_marked isMarked
  have isFound : (mark, written) ∈ line.marks := by
    rw [← line.map_marked 0]
    exact List.mem_map.mpr ⟨_, isMarked, rfl⟩
  obtain ⟨c, opens, isVisible⟩ := visible (mark, written)
    (List.mem_flatMap.mpr ⟨line, List.mem_of_getElem? isLine, isFound⟩) isName
  have isOne : (lines.map Line.text)[index]? = some line.text := by
    rw [List.getElem?_map, isLine]
    rfl
  have isThere : c ∈ line.text.toList := by
    rw [isText, String.toList_append, String.toList_append]
    exact List.mem_append_left _ (List.mem_append_right _ (List.mem_of_mem_head? opens))
  obtain ⟨found, isShort, something⟩ := dedented_ne_empty isOne isThere isVisible
  cases isLeft.symm.trans isShort
  have whole : line.text = margin (lines.map Line.text) ++ left :=
    Option.some.inj (isOne.symm.trans (eq_of_dedented isLeft something))
  obtain ⟨between, rfl, rfl⟩ := split_of_margin (fun c => blank_of_mem_margin isLeft something)
    opens isVisible (isText.symm.trans whole)
  refine ⟨?_, by simp only; omega, _, between, after, ?_, rfl, ?_⟩
  · intro isNone
    rw [show written = "" from isNone] at opens
    cases opens
  · rw [Nat.add_sub_cancel_left]
    exact isLeft
  · rw [whole] at *
    simp only [String.utf8ByteSize_append] at isColumn ⊢
    omega

theorem startsName_of_blank {c : Char} (isBlank : CodePoint.blank c = true) :
    CodePoint.startsName c = false := by
  have none : ∀ point ∈ [9, 10, 11, 12, 13, 28, 29, 30, 31, 32, 0x85, 0xa0, 0x1680, 0x2000, 0x2001,
      0x2002, 0x2003, 0x2004, 0x2005, 0x2006, 0x2007, 0x2008, 0x2009, 0x200a, 0x2028, 0x2029,
      0x202f, 0x205f, 0x3000], CodePoint.startsName (Char.ofNat point) = false := by decide +kernel
  rw [← Char.ofNat_toNat c]
  apply none
  simp only [CodePoint.blank, Bool.or_eq_true, Bool.and_eq_true, decide_eq_true_eq,
    beq_iff_eq] at isBlank
  simp only [List.mem_cons, List.not_mem_nil, or_false]
  omega

/-- The names in the text of a definition are shaped like names. -/
structure HasNames (source : Source) : Prop where
  parameters : ∀ parameter ∈ source.parameters, isIdentifier parameter.name = true
  keywords : ∀ decoration ∈ source.layout.decorations, ∀ keywords ∈ decoration,
    ∀ keyword ∈ keywords, isIdentifier keyword = true

theorem head?_of_isIdentifier {name : String} (isName : isIdentifier name = true) :
    ∃ c, name.toList.head? = some c ∧ CodePoint.blank c = false := by
  rw [isIdentifier] at isName
  split at isName
  · cases isName
  · rename_i first rest isText
    rw [Bool.and_eq_true] at isName
    refine ⟨first, by rw [isText]; rfl, eq_false_of_ne_true fun isBlank => ?_⟩
    rw [startsName_of_blank isBlank] at isName
    cases isName.1

/-- Every name in the text of a definition opens with something visible. -/
theorem HasNames.visible (named : source.HasNames) : Visible source.lines := by
  rintro ⟨mark, written⟩ isIn isName
  rw [marks_lines] at isIn
  apply head?_of_isIdentifier
  simp only [List.mem_append, List.mem_map, Option.mem_toList, Option.map_eq_some_iff,
    List.mem_flatMap] at isIn
  rcases isIn with (⟨keyword, ⟨decoration, isDecoration, isKeyword⟩, isSame⟩ |
    ⟨parameter, isParameter, isSame⟩) | ⟨text, -, isSame⟩
  · cases isSame
    cases decoration with
    | none => cases isKeyword
    | some keywords => exact named.keywords _ isDecoration keywords rfl _ isKeyword
  · cases isSame
    exact named.parameters parameter isParameter
  · cases isSame
    simp at isName

theorem Opens.append {texts : List String} (opens : Opens texts) (more : List String) :
    Opens (texts ++ more) := by
  obtain ⟨first, rest, rfl, visible⟩ := opens
  exact ⟨first, rest ++ more, rfl, visible⟩

theorem opens_line {line : Line} {piece : Piece} {c : Char} (rest : List Line)
    (isPiece : piece ∈ line) (isIn : c ∈ piece.text.toList) (visible : CodePoint.blank c = false) :
    Opens ((line :: rest).map Line.text) := by
  refine ⟨_, _, rfl, c, ?_, visible⟩
  rw [Line.text, String.toList_join, List.mem_flatMap]
  exact ⟨piece.text, List.mem_map.mpr ⟨piece, isPiece, rfl⟩, isIn⟩

theorem opens_group (layout : Layout) (head : String) (items : List Line) (tail : Line) :
    Opens ((layout.group head items tail).map Line.text) := by
  have isIn : '(' ∈ (Piece.plain (head ++ "(")).text.toList := by simp [Piece.plain]
  rw [Layout.group]
  split
  · exact opens_line _ (by simp) isIn (by decide)
  · exact opens_line _ (by simp) isIn (by decide)

theorem opens_decorationLines (layout : Layout) (decoration : Option (List String)) :
    Opens ((layout.decorationLines decoration).map Line.text) := by
  cases decoration with
  | none =>
    have isIn : '@' ∈ (Piece.plain "@deco").text.toList := by decide
    exact opens_line [] (by simp) isIn (by decide)
  | some keywords => exact opens_group layout _ _ _

/-- Something visible stands on the first line of a definition. -/
theorem opens_lines (source : Source) : Opens (source.lines.map Line.text) := by
  rw [lines]
  simp only [List.map_append]
  refine ((?_ : Opens _).append _).append _
  cases source.layout.decorations with
  | nil => exact opens_group source.layout _ _ _
  | cons decoration others =>
    rw [List.flatMap_cons, List.map_append]
    exact ((opens_decorationLines source.layout decoration).append _).append _

theorem mem_names_headingOf {tokens : List (TokenMark × Token)} {token : Token}
    (isIn : token ∈ (headingOf tokens).names) :
    ∃ mark, (mark, token) ∈ tokens ∧ (mark = .parameter ∨ mark = .keyword) := by
  simp only [Heading.names, headingOf, List.mem_append, List.mem_filterMap] at isIn
  rcases isIn with ⟨⟨mark, found⟩, isFound, isToken⟩ | ⟨⟨mark, found⟩, isFound, isToken⟩
  · split at isToken
    · cases isToken
      exact ⟨mark, isFound, .inl ‹_›⟩
    · cases isToken
  · split at isToken
    · cases isToken
      exact ⟨mark, isFound, .inr ‹_›⟩
    · cases isToken

/-- The tokens of one kind, as they are written. -/
theorem map_filterMap_mark (tokens : List (TokenMark × Token)) (mark : TokenMark) :
    (tokens.filterMap fun found => if found.1 = mark then some found.2 else none).map
        Token.written =
      (tokens.map fun found => (found.1, found.2.written)).filterMap fun found =>
        if found.1 = mark then some found.2 else none := by
  rw [List.map_filterMap, List.filterMap_map]
  refine List.filterMap_congr fun found _ => ?_
  simp only [Function.comp]
  split <;> rfl

/-- The names of a definition are those of its parameters and the keywords of its decorations. -/
theorem names_of_parse {heading : Heading}
    (parses : source.parse (dedented (source.lines.map Line.text)) = .definition heading) :
    heading.parameters.map Token.written = source.parameters.map WrittenParameter.name ∧
      heading.keywords.map Token.written =
        source.layout.decorations.flatMap fun decoration => decoration.getD [] := by
  have sameLength : (dedented (source.lines.map Line.text)).length = source.lines.length := by
    simp [dedented, dedent]
  have written := (map_tokensFrom sameLength 1).trans (marks_lines source)
  have isHeading : heading =
      headingOf (tokensFrom 1 source.lines (dedented (source.lines.map Line.text))) := by
    rw [parse] at parses
    split at parses
    · cases parses
    · split at parses <;> cases parses
      rfl
  have noReturns : ∀ mark : TokenMark, mark = .parameter ∨ mark = .keyword →
      (source.returns.map fun text =>
        (TokenMark.returns (returnSegment text), text)).toList.filterMap
          (fun found => if found.1 = mark then some found.2 else none) = [] := by
    intro mark isName
    cases source.returns <;> rcases isName with rfl | rfl <;> rfl
  rw [isHeading, headingOf, map_filterMap_mark, map_filterMap_mark, written]
  simp [List.filterMap_append, List.filterMap_map, noReturns]

/-- Reading the text of a definition tells where its names are. -/
theorem isRead_parse {whole : List String} (named : source.HasNames)
    (counted : 1 ≤ start) (isPart : source.lines.map Line.text <+: whole.drop (start - 1)) :
    IsRead source.parse (source.lines.map Line.text) start whole where
  counted := counted
  isPart := isPart
  opens := opens_lines source
  flush heading parses := by
    rw [parse] at parses
    split at parses
    · cases parses
    · exact eq_false_of_ne_true ‹_›
  placed heading parses token isToken := by
    rw [parse] at parses
    split at parses
    · cases parses
    · split at parses
      · cases parses
      · cases parses
        obtain ⟨mark, isIn, isName⟩ := mem_names_headingOf isToken
        exact standsIn_of_tokensFrom named.visible isName isIn

end Source

end Deferred
