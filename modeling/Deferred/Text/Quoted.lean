import Deferred.Text.CodePoint

/-!
# Quoted text

Text inside generated code and inside diagnostics stands between quotes.  The mark is an
apostrophe unless the text holds apostrophes and no double quote.  The mark and the backslash are
written after a backslash, line feed, carriage return and tab have their own escapes, and every
other character without a visible form is written by its code point.
-/

namespace Deferred.Text

/-- The lower-case hexadecimal digit of a number below sixteen. -/
def hexDigit (digit : Nat) : Char :=
  if digit < 10 then Char.ofNat (48 + digit) else Char.ofNat (87 + digit)

/-- The last `width` hexadecimal digits of a number, the most significant first. -/
def hexDigits : Nat → Nat → List Char
  | 0, _ => []
  | width + 1, value => hexDigits width (value / 16) ++ [hexDigit (value % 16)]

@[simp] theorem length_hexDigits (width value : Nat) : (hexDigits width value).length = width := by
  induction width generalizing value with
  | zero => rfl
  | succ width ih => simp [hexDigits, ih]

/-- The quotation mark a text is written between. -/
def quoteMark (text : List Char) : Char :=
  if text.contains '\'' && !text.contains '"' then '"' else '\''

/-- A character written by its code point, in the narrowest of the three widths. -/
def escapePoint (c : Char) : List Char :=
  if c.toNat < 0x100 then '\\' :: 'x' :: hexDigits 2 c.toNat
  else if c.toNat < 0x10000 then '\\' :: 'u' :: hexDigits 4 c.toNat
  else '\\' :: 'U' :: hexDigits 8 c.toNat

/-- One character as it stands between quotation marks. -/
def escapeChar (mark c : Char) : List Char :=
  if c = mark ∨ c = '\\' then ['\\', c]
  else if c = '\n' then ['\\', 'n']
  else if c = '\r' then ['\\', 'r']
  else if c = '\t' then ['\\', 't']
  else if CodePoint.printable c then [c]
  else escapePoint c

/-- The characters of a quoted text, marks included. -/
def quoteChars (text : List Char) : List Char :=
  let mark := quoteMark text
  mark :: (text.flatMap (escapeChar mark) ++ [mark])

/-- A text between quotation marks. -/
def quote (text : String) : String :=
  String.ofList (quoteChars text.toList)

/-! ## Other forms -/

/-- A text in which everything beyond ASCII is written by its code point. -/
def plainForm (text : String) : String :=
  String.ofList (text.toList.flatMap fun c => if c.toNat < 128 then [c] else escapePoint c)

/-- Octets between quotation marks; those that stand for no visible ASCII character are written by
their value. -/
def quoteOctets (octets : List UInt8) : String :=
  let letters := octets.map fun octet => Char.ofNat octet.toNat
  let mark := quoteMark letters
  String.ofList ('b' :: mark :: (letters.flatMap fun c =>
    if c.toNat < 128 then escapeChar mark c else escapePoint c) ++ [mark])

theorem escapeChar_ne_nil (mark c : Char) : escapeChar mark c ≠ [] := by
  unfold escapeChar escapePoint
  repeat' split
  all_goals simp

/-- Quoted text stays on its line. -/
theorem newline_notMem_escapeChar {mark c : Char} (h : mark ≠ '\n') :
    '\n' ∉ escapeChar mark c := by
  have digit : ∀ d, hexDigit (d % 16) ≠ '\n' := by
    intro d
    have small : d % 16 < 16 := Nat.mod_lt _ (by decide)
    generalize d % 16 = r at small
    revert r
    decide
  have digits : ∀ width value, '\n' ∉ hexDigits width value := by
    intro width
    induction width with
    | zero => intro value; simp [hexDigits]
    | succ width ih =>
      intro value
      simp only [hexDigits, List.mem_append, List.mem_singleton, not_or]
      exact ⟨ih _, fun equal => digit value equal.symm⟩
  unfold escapeChar escapePoint
  split
  · rename_i same
    rcases same with rfl | rfl
    · simpa using Ne.symm h
    · decide
  split
  · decide
  rename_i notNewline
  split
  · decide
  split
  · decide
  split
  · simpa using Ne.symm notNewline
  split
  · simp [digits]
  split <;> simp [digits]

end Deferred.Text
