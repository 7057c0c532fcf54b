/-!
# Numbers as text

Whole numbers are written in decimal.  A binary fraction is written with the fewest decimal digits
that read back as the same number, of those the nearest to it: the candidates with one, two, …
digits are the two neighbours of the number on that decimal grid, tested in exact arithmetic
against the interval of reals that round to it.  The digits stand in positional form while the
exponent is at least -4 and below 16, and in exponent form otherwise.
-/

namespace Deferred.Text

/-- A power of two. -/
def twoPow (exponent : Nat) : Nat := Nat.pow 2 exponent

/-- A power of ten. -/
def tenPow (exponent : Nat) : Nat := Nat.pow 10 exponent

/-- The most decimal digits that a whole number is written or read with. -/
def digitLimit : Nat := 4300

/-- Does a whole number have more digits than are written?  The number of its binary digits tells it
of all but very large numbers. -/
def isOverlong (number : Int) : Bool :=
  3 * digitLimit ≤ number.natAbs.log2 && tenPow digitLimit ≤ number.natAbs

/-- A positive binary fraction, exactly: `mantissa * 2 ^ exponent`. -/
structure Dyadic where
  mantissa : Nat
  exponent : Int
  /-- Is the gap below the number half as wide as the gap above it? -/
  narrowBelow : Bool

/-- A quotient of natural numbers. -/
structure Ratio where
  numerator : Nat
  denominator : Nat

namespace Dyadic

/-- The positive fraction held by the magnitude bits of a binary64 number. -/
def ofMagnitude (bits : Nat) : Dyadic :=
  let raw : Nat := bits / twoPow 52
  let fraction : Nat := bits % twoPow 52
  if raw = 0 then ⟨fraction, -1074, false⟩
  else ⟨twoPow 52 + fraction, (raw : Int) - 1075, fraction == 0 && raw != 1⟩

/-- A quarter count of the unit in the last place, as a quotient. -/
def quarters (number : Dyadic) (count : Nat) : Ratio :=
  let shift := number.exponent - 2
  if 0 ≤ shift then ⟨count * twoPow shift.toNat, 1⟩ else ⟨count, twoPow (-shift).toNat⟩

def value (number : Dyadic) : Ratio := number.quarters (4 * number.mantissa)

/-- The lower end of the reals that round to the number. -/
def lower (number : Dyadic) : Ratio :=
  number.quarters (4 * number.mantissa - if number.narrowBelow then 1 else 2)

/-- The upper end of the reals that round to the number. -/
def upper (number : Dyadic) : Ratio := number.quarters (4 * number.mantissa + 2)

/-- Does `count * 10 ^ place` round to the number?  The ends belong to the interval when the
mantissa is even. -/
def holds (number : Dyadic) (count : Nat) (place : Int) : Bool :=
  let candidate : Ratio :=
    if 0 ≤ place then ⟨count * tenPow place.toNat, 1⟩ else ⟨count, tenPow (-place).toNat⟩
  let below := number.lower.numerator * candidate.denominator
  let above := number.upper.numerator * candidate.denominator
  let scaledLow := candidate.numerator * number.lower.denominator
  let scaledHigh := candidate.numerator * number.upper.denominator
  if number.mantissa % 2 = 0 then below ≤ scaledLow && scaledHigh ≤ above
  else below < scaledLow && scaledHigh < above

/-- The largest multiple of `10 ^ place` that does not exceed the number, and twice the remainder
compared with the grid. -/
def floorAt (number : Dyadic) (place : Int) : Nat × Ordering :=
  let quotient := number.value
  let top := if 0 ≤ place then quotient.numerator else quotient.numerator * tenPow (-place).toNat
  let bottom :=
    if 0 ≤ place then quotient.denominator * tenPow place.toNat else quotient.denominator
  (top / bottom, compare (2 * (top % bottom)) bottom)

/-- The place of the leading decimal digit, searched downwards from `place`. -/
def leadingPlace (number : Dyadic) : Nat → Int → Int
  | 0, place => place
  | bound + 1, place =>
    if 0 < (number.floorAt place).1 then place else leadingPlace number bound (place - 1)

/-- Search the grids from `place` downwards for one with a point that rounds to the number. -/
def search (number : Dyadic) : Nat → Int → Nat × Int
  | 0, place => ((number.floorAt place).1, place)
  | bound + 1, place =>
    let (low, side) := number.floorAt place
    match number.holds low place, number.holds (low + 1) place with
    | true, true => if side == .gt then (low + 1, place) else (low, place)
    | true, false => (low, place)
    | false, true => (low + 1, place)
    | false, false => search number bound (place - 1)

/-- The shortest decimal `(count, place)`, standing for `count * 10 ^ place`. -/
def shortest (number : Dyadic) : Nat × Int :=
  number.search 18 (number.leadingPlace 640 309)

end Dyadic

/-- Digits of a decimal, with the trailing zeros moved into the exponent of the last one. -/
def trimZeros : Nat → Nat × Int → Nat × Int
  | 0, decimal => decimal
  | bound + 1, (count, place) =>
    if count % 10 = 0 ∧ count ≠ 0 then trimZeros bound (count / 10, place + 1) else (count, place)

/-- The decimal `count * 10 ^ place`, positional for exponents from -4 to 15. -/
def decimalText (count : Nat) (place : Int) : String :=
  let digits := (Nat.toDigits 10 count)
  let exponent : Int := place + digits.length - 1
  if -4 ≤ exponent ∧ exponent < 16 then
    if exponent < 0 then
      "0." ++ String.ofList (List.replicate (-exponent - 1).toNat '0' ++ digits)
    else
      let whole := (exponent + 1).toNat
      let padded := digits ++ List.replicate (whole - digits.length) '0'
      let fraction := padded.drop whole
      String.ofList (padded.take whole) ++ "." ++
        (if fraction.isEmpty then "0" else String.ofList fraction)
  else
    let fraction := digits.drop 1
    let size := exponent.natAbs
    String.ofList (digits.take 1) ++
      (if fraction.isEmpty then "" else "." ++ String.ofList fraction) ++
      "e" ++ (if exponent < 0 then "-" else "+") ++
      (if size < 10 then "0" else "") ++ toString size

/-- A binary64 number as text. -/
def floatText (number : Float) : String :=
  let bits := number.toBits.toNat
  let sign := if bits / twoPow 63 = 1 then "-" else ""
  let magnitude := bits % twoPow 63
  if magnitude / twoPow 52 = 2047 then
    if magnitude % twoPow 52 = 0 then sign ++ "inf" else "nan"
  else if magnitude = 0 then sign ++ "0.0"
  else
    let (count, place) := trimZeros 20 (Dyadic.ofMagnitude magnitude).shortest
    sign ++ decimalText count place

/-- A binary64 number as text, without the fraction where it is whole. -/
def briefText (number : Float) : String :=
  let letters := (floatText number).toList
  if ".0".toList.reverse.isPrefixOf letters.reverse then
    String.ofList (letters.take (letters.length - 2))
  else String.ofList letters

/-- A complex number as text.  A real part that is zero is left out. -/
def complexText (real imaginary : Float) : String :=
  if real.toBits.toNat = 0 then briefText imaginary ++ "j"
  else
    let second := briefText imaginary
    "(" ++ briefText real ++ (if second.startsWith "-" then "" else "+") ++ second ++ "j)"

end Deferred.Text
