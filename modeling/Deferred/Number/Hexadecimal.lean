import Deferred.Number.Read
import Deferred.Text.Quoted

/-!
# Floats in hexadecimal

A float is written in hexadecimal exactly: a leading digit, thirteen digits behind the point, and a
power of two.  It is read with any number of digits and rounded once.
-/

namespace Deferred.Number.Hexadecimal

open Deferred.Text

/-- A float in hexadecimal. -/
def text (number : Float) : String :=
  let bits := number.toBits.toNat
  let sign := if bits / twoPow 63 = 1 then "-" else ""
  let magnitude := bits % twoPow 63
  let raw := magnitude / twoPow 52
  let fraction := magnitude % twoPow 52
  if raw = 2047 then if fraction = 0 then sign ++ "inf" else "nan"
  else if magnitude = 0 then sign ++ "0x0.0p+0"
  else
    let exponent : Int := (if raw = 0 then 1 else (raw : Int)) - 1023
    sign ++ "0x" ++ (if raw = 0 then "0" else "1") ++ "." ++
      String.ofList (hexDigits 13 fraction) ++ "p" ++ (if exponent < 0 then "-" else "+") ++
      toString exponent.natAbs

/-- The value of a hexadecimal digit. -/
def digit? (c : Char) : Option Nat :=
  (Read.digit? c).bind fun digit => if digit < 16 then some digit else none

/-- The hexadecimal digits at the start of some characters, and what follows. -/
def row (letters : List Char) : List Char × List Char :=
  let digits := letters.takeWhile fun c => (digit? c).isSome
  (digits, letters.drop digits.length)

/-- The value of a row of hexadecimal digits. -/
def rowValue (digits : List Char) : Nat :=
  digits.foldl (fun sofar c => 16 * sofar + (digit? c).getD 0) 0

/-- The power of two at the start of some characters, if it is well formed, and what follows. -/
def power? (letters : List Char) : Option (Int × List Char) :=
  match letters with
  | mark :: rest =>
    if mark = 'p' || mark = 'P' then
      let (negative, rest) := Read.sign rest
      let digits := rest.takeWhile Char.isDigit
      if digits.isEmpty then none
      else
        let size : Int := min (Read.rowValue digits) 1000000
        some (if negative then -size else size, rest.drop digits.length)
    else some (0, letters)
  | [] => some (0, [])

/-- The float without a sign that characters spell. -/
def unsigned? (letters : List Char) : Option Float :=
  let word := String.ofList (letters.map Char.toLower)
  if word = "inf" || word = "infinity" then some (1.0 / 0.0)
  else if word = "nan" then some (0.0 / 0.0 : Float).abs
  else
    let letters := match letters with
      | '0' :: mark :: rest => if mark = 'x' || mark = 'X' then rest else letters
      | letters => letters
    let (before, rest) := row letters
    let (behind, rest) := match rest with
      | '.' :: rest => row rest
      | rest => ([], rest)
    match before.isEmpty && behind.isEmpty, power? rest with
    | false, some (exponent, []) =>
      let value := rowValue (before ++ behind)
      let exponent := exponent - 4 * behind.length
      if value = 0 || (value.log2 : Int) + exponent < -1200 then some 0.0
      else if 1200 < (value.log2 : Int) + exponent then some (1.0 / 0.0)
      else if 0 ≤ exponent then some (nearestFloat (value * twoPow exponent.toNat : Nat) 1)
      else some (nearestFloat value (twoPow (-exponent).toNat))
    | _, _ => none

/-- The float that a text spells in hexadecimal. -/
def read? (text : List Char) : Option Float :=
  let (negative, letters) := Read.sign (Read.trimmed text)
  (unsigned? letters).map fun value => if negative then -value else value

end Deferred.Number.Hexadecimal
