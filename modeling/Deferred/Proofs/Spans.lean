import Deferred.Proofs.Bindings
import Deferred.Proofs.Tokens

/-!
# Spans point at their tokens

The tokens of a definition are found in a copy of its text that lost a margin.  Whenever the copy
parses, the margin is what the first line was indented by, and every line with a token on it lost
just that.  So adding the indentation of the first line gives the place of a token in the file,
whatever line it is on.  White space counts here as it does where that indentation is taken.
-/

namespace Deferred

open Text

/-- A span points at its segment in a file, the lines of which are counted from one. -/
structure Span.PointsInto (span : Span) (whole : List String) : Prop where
  counted : 1 ≤ span.line
  found : ∃ line before after, whole[(span.line - 1).toNat]? = some line ∧
    line = before ++ span.segment ++ after ∧ (before.utf8ByteSize : Int) = span.column

/-- There is exactly one entry for each of some names. -/
structure Entries.OneEach (entries : List (String × Span)) (names : List String) : Prop where
  single : (Entries.keys entries).Nodup
  covers : ∀ name, name ∈ Entries.keys entries ↔ name ∈ names

namespace Source

variable {parse : List String → Reading} {texts whole : List String} {start : Nat}
  {written : Option (List String × Nat)}

/-- The place of a token in the lines that were read back, told as a place in the file. -/
theorem pointsInto_of_standsIn {token : Token} {file : String}
    (read : IsRead parse texts start whole) (stands : token.StandsIn texts) :
    Span.PointsInto ⟨file, start + token.line - 1, token.column, token.written⟩ whole := by
  obtain ⟨line, before, after, isLine, isWhole, isColumn⟩ := stands.found
  have counted := stands.counted
  have starts := read.counted
  refine ⟨by simp only; omega, line, before, after, ?_, isWhole, by simp only [isColumn]⟩
  have isNumber : ((start : Int) + token.line - 1 - 1).toNat = start - 1 + (token.line - 1) := by
    omega
  obtain ⟨rest, isRest⟩ := read.isPart
  rw [isNumber, ← List.getElem?_drop, ← isRest, List.getElem?_append_left
    (List.getElem?_eq_some_iff.mp isLine).1]
  exact isLine

end Source

namespace SourceMap

variable {parse : List String → Reading} {file : String} {line : Nat}
  {written : Option (List String × Nat)} {texts whole : List String} {start : Nat}

/-- The entry of a token that was found without the margin of its text. -/
def entryOf (file : String) (texts : List String) (start : Nat) (token : Token) : String × Span :=
  (normalName token.written,
    ⟨file, start + token.line - 1, token.column + Source.firstIndent texts,
      normalName token.written⟩)

/-- A map has one span for each of some parameters and one for each of some keywords, and every one
of them points at the token it is about. -/
structure Points (spans : SourceMap) (parameters keywords : List String) (file : String)
    (whole : List String) : Prop where
  parameters : Entries.OneEach spans.parameters parameters
  keywords : Entries.OneEach spans.keywords keywords
  points : ∀ entry ∈ spans.parameters ++ spans.keywords,
    entry.2.file = file ∧ entry.2.segment = entry.1 ∧ entry.2.PointsInto whole

theorem oneEach_entries {tokens : List Token}
    (normal : ∀ token ∈ tokens, normalName token.written = token.written) :
    Entries.OneEach (Entries.putAll [] (tokens.map (entryOf file texts start)))
      (tokens.map Token.written) := by
  have isKey : Entries.keys (tokens.map (entryOf file texts start)) = tokens.map Token.written := by
    rw [Entries.keys, List.map_map]
    exact List.map_congr_left normal
  refine ⟨Entries.nodup_keys_putAll List.nodup_nil, fun name => ?_⟩
  rw [Entries.mem_keys_putAll, isKey]
  simp [Entries.keys]

theorem points_entries {tokens : List Token} {entry : String × Span}
    (read : Source.IsRead parse texts start whole)
    (flush : Source.opensBlank (Source.dedented texts) = false)
    (placed : ∀ token ∈ tokens, token.StandsIn (Source.dedented texts))
    (normal : ∀ token ∈ tokens, normalName token.written = token.written)
    (isIn : entry ∈ Entries.putAll [] (tokens.map (entryOf file texts start))) :
    entry.2.file = file ∧ entry.2.segment = entry.1 ∧ entry.2.PointsInto whole := by
  rcases Entries.mem_putAll isIn with isOld | isNew
  · cases isOld
  · obtain ⟨token, isToken, rfl⟩ := List.mem_map.mp isNew
    refine ⟨rfl, rfl, ?_⟩
    have stands := Source.standsIn_of_dedented read.opens flush (placed token isToken)
    rw [entryOf, normal token isToken]
    exact Source.pointsInto_of_standsIn read stands

/-- The map of a text that parses as a definition. -/
theorem points_of_parse {heading : Heading} (read : Source.IsRead parse texts start whole)
    (parses : parse (Source.dedented texts) = .definition heading)
    (normal : ∀ token ∈ heading.names, normalName token.written = token.written) :
    (locate parse file line (some (texts, start))).Points (heading.parameters.map Token.written)
      (heading.keywords.map Token.written) file whole := by
  have flush := read.flush heading parses
  have placed := read.placed heading parses
  have ofParameter : ∀ token ∈ heading.parameters, token ∈ heading.names :=
    fun token isIn => List.mem_append_left _ isIn
  have ofKeyword : ∀ token ∈ heading.keywords, token ∈ heading.names :=
    fun token isIn => List.mem_append_right _ isIn
  simp only [locate, parses]
  refine ⟨oneEach_entries fun token isIn => normal token (ofParameter token isIn),
    oneEach_entries fun token isIn => normal token (ofKeyword token isIn), fun entry isIn => ?_⟩
  rcases List.mem_append.mp isIn with isParameter | isKeyword
  · exact points_entries read flush (fun token isIn => placed token (ofParameter token isIn))
      (fun token isIn => normal token (ofParameter token isIn)) isParameter
  · exact points_entries read flush (fun token isIn => placed token (ofKeyword token isIn))
      (fun token isIn => normal token (ofKeyword token isIn)) isKeyword

end SourceMap

/-! ## Routines -/

namespace Routine

variable {routine : Routine} {whole : List String}

/-- The spans of a routine whose text can be read back point at its parameters and at the keywords
of its decorations, as they are written in the file. -/
theorem points_of_isReadable (readable : routine.source.isReadable = true)
    (named : routine.source.HasNames)
    (normal : ∀ name ∈ routine.source.parameters.map WrittenParameter.name ++
      routine.source.layout.decorations.flatMap (fun decoration => decoration.getD []),
      normalName name = name)
    (counted : 1 ≤ routine.source.layout.line)
    (isPart : routine.source.lines.map Line.text <+:
      whole.drop (routine.source.layout.line - 1)) :
    routine.locate.Points (routine.source.parameters.map WrittenParameter.name)
      (routine.source.layout.decorations.flatMap fun decoration => decoration.getD [])
      routine.file whole := by
  rw [locate]
  rw [Source.isReadable] at readable
  split at readable
  · cases readable
  · rename_i texts start isWritten
    split at readable
    · rename_i heading parses
      have isText : texts = routine.source.lines.map Line.text ∧
          start = routine.source.layout.line := by
        rw [Source.written?] at isWritten
        split at isWritten <;> cases isWritten
        exact ⟨rfl, rfl⟩
      obtain ⟨rfl, rfl⟩ := isText
      obtain ⟨ofParameters, ofKeywords⟩ := Source.names_of_parse parses
      rw [isWritten, ← ofParameters, ← ofKeywords]
      refine SourceMap.points_of_parse (Source.isRead_parse named counted isPart) parses ?_
      intro token isToken
      apply normal
      rw [← ofParameters, ← ofKeywords, ← List.map_append]
      exact List.mem_map.mpr ⟨token, isToken, rfl⟩
    · cases readable

end Routine

end Deferred
