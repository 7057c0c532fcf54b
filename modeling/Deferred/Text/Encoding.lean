import Deferred.Text.Letter

/-!
# Encodings

Text is written as octets in one of a few encodings.  An encoding that does not have a character, or
octets that stand for none, are a failure that names the places and the reason.
-/

namespace Deferred.Text

/-- An encoding of text. -/
inductive Encoding where
  | utf8
  | ascii
  | latin
  /-- Units of two octets, the low one first or last, with or without a mark of the order. -/
  | units16 (lowFirst marked : Bool)
  /-- Units of four octets. -/
  | units32 (lowFirst marked : Bool)
  deriving DecidableEq, Repr, Inhabited

namespace Encoding

/-- A name of an encoding in its plain form. -/
def plainName (name : String) : String :=
  String.ofList (name.toList.map fun c => if c.isAlphanum then c.toLower else '_')

/-- The encoding that goes by a name. -/
def ofName? (name : String) : Option Encoding :=
  let name := plainName name
  if ["utf_8", "utf8", "u8", "utf", "cp65001"].contains name then some utf8
  else if ["ascii", "us_ascii", "646", "iso646_us", "us", "iso_ir_6"].contains name then some ascii
  else if ["latin_1", "latin1", "latin", "l1", "iso_8859_1", "iso8859_1", "8859", "cp819",
    "iso_ir_100"].contains name then some latin
  else
    match name with
    | "utf_16" | "utf16" | "u16" => some (units16 true true)
    | "utf_16_le" | "utf_16le" => some (units16 true false)
    | "utf_16_be" | "utf_16be" => some (units16 false false)
    | "utf_32" | "utf32" | "u32" => some (units32 true true)
    | "utf_32_le" | "utf_32le" => some (units32 true false)
    | "utf_32_be" | "utf_32be" => some (units32 false false)
    | _ => none

/-- The name that an encoding goes by in messages. -/
def name : Encoding → String
  | utf8 => "utf-8"
  | ascii => "ascii"
  | latin => "latin-1"
  | units16 _ _ => "utf-16"
  | units32 _ _ => "utf-32"

/-- Places at which an encoding fails, the last one not included, and why. -/
structure Failure where
  start : Nat
  stop : Nat
  reason : String
  deriving Repr, Inhabited

/-! ## Writing -/

/-- A number as octets. -/
def octetsOf (lowFirst : Bool) (size value : Nat) : List UInt8 :=
  let low := (List.range size).map fun place => UInt8.ofNat (value / Nat.pow 256 place)
  if lowFirst then low else low.reverse

/-- A character in units of two octets. -/
def units16Of (lowFirst : Bool) (c : Char) : List UInt8 :=
  if c.toNat < 0x10000 then octetsOf lowFirst 2 c.toNat
  else
    let rest := c.toNat - 0x10000
    octetsOf lowFirst 2 (0xd800 + rest / 0x400) ++ octetsOf lowFirst 2 (0xdc00 + rest % 0x400)

/-- The octets of a character in an encoding that has it. -/
def ofChar? (encoding : Encoding) (c : Char) : Option (List UInt8) :=
  match encoding with
  | utf8 => some (String.singleton c).toUTF8.toList
  | ascii => if c.toNat < 128 then some [UInt8.ofNat c.toNat] else none
  | latin => if c.toNat < 256 then some [UInt8.ofNat c.toNat] else none
  | units16 lowFirst _ => some (units16Of lowFirst c)
  | units32 lowFirst _ => some (octetsOf lowFirst 4 c.toNat)

/-- The octets in front of all others. -/
def mark : Encoding → List UInt8
  | units16 lowFirst true => octetsOf lowFirst 2 0xfeff
  | units32 lowFirst true => octetsOf lowFirst 4 0xfeff
  | _ => []

/-- Why an encoding does not have a character. -/
def lacking : Encoding → String
  | ascii => "ordinal not in range(128)"
  | _ => "ordinal not in range(256)"

/-- Octets up to the first row of characters that the encoding does not have; that row is the failure.
`place` is the place of the first character. -/
def encodeFrom (encoding : Encoding) (place : Nat) : List Char → List UInt8 × Option Failure
  | [] => ([], none)
  | c :: rest =>
    match encoding.ofChar? c with
    | some octets =>
      let (others, failure) := encodeFrom encoding (place + 1) rest
      (octets ++ others, failure)
    | none =>
      let size := (rest.takeWhile fun c => (encoding.ofChar? c).isNone).length + 1
      ([], some { start := place, stop := place + size, reason := encoding.lacking })

/-! ## Reading -/

/-- Is this an octet that goes on with a character? -/
def continues (octet : UInt8) : Bool := 0x80 ≤ octet && octet < 0xc0

/-- How many octets the character has that an octet starts. -/
def lengthOf? (first : UInt8) : Option Nat :=
  if first < 0x80 then some 1
  else if first < 0xc2 then none
  else if first < 0xe0 then some 2
  else if first < 0xf0 then some 3
  else if first < 0xf5 then some 4
  else none

/-- Can an octet stand behind the first one?  Forms that are longer than needed, halves of pairs and
what lies beyond the last character are left out. -/
def follows (first second : UInt8) : Bool :=
  continues second &&
    (if first = 0xe0 then 0xa0 ≤ second
    else if first = 0xed then second < 0xa0
    else if first = 0xf0 then 0x90 ≤ second
    else if first = 0xf4 then second < 0x90
    else true)

/-- How many of the octets behind the first one go on with its character. -/
def going (first : UInt8) (wanted : Nat) : List UInt8 → Nat
  | [] => 0
  | second :: rest =>
    if wanted ≠ 0 && follows first second then
      1 + ((rest.take (wanted - 1)).takeWhile continues).length
    else 0

/-- The character at the start of some octets with the number of its octets, or the number of octets
that are wrong there and why. -/
def firstOf (octets : List UInt8) : Except (Nat × String) (Char × Nat) :=
  match octets with
  | [] => .error (0, "")
  | first :: rest =>
    match lengthOf? first with
    | none => .error (1, "invalid start byte")
    | some size =>
      let count := going first (size - 1) rest
      if count + 1 = size then
        let lead : Nat := if size = 1 then first.toNat
          else first.toNat % Nat.pow 2 (7 - size)
        let point := (rest.take count).foldl (fun sofar octet => 64 * sofar + octet.toNat % 64) lead
        .ok (Char.ofNat point, size)
      else if rest.length ≤ count then .error (count + 1, "unexpected end of data")
      else .error (count + 1, "invalid continuation byte")

/-- The characters of octets, or the octets that are wrong, each with its place; at most `bound`
steps. -/
def decodeFrom (encoding : Encoding) :
    Nat → Nat → List UInt8 → List (Except Failure Char)
  | 0, _, _ => []
  | _, _, [] => []
  | bound + 1, place, octet :: rest =>
    let wrong (size : Nat) (reason : String) : Except Failure Char :=
      .error { start := place, stop := place + size, reason }
    match encoding with
    | utf8 =>
      match firstOf (octet :: rest) with
      | .ok (c, size) =>
        .ok c :: decodeFrom encoding bound (place + size) ((octet :: rest).drop size)
      | .error (size, reason) =>
        wrong size reason ::
          decodeFrom encoding bound (place + size) ((octet :: rest).drop size)
    | ascii =>
      (if octet < 128 then .ok (Char.ofNat octet.toNat) else wrong 1 "ordinal not in range(128)") ::
        decodeFrom encoding bound (place + 1) rest
    | _ => .ok (Char.ofNat octet.toNat) :: decodeFrom encoding bound (place + 1) rest

/-- The characters of octets, or the octets that are wrong. -/
def decode (encoding : Encoding) (octets : List UInt8) : List (Except Failure Char) :=
  encoding.decodeFrom octets.length 0 octets

end Encoding

end Deferred.Text
