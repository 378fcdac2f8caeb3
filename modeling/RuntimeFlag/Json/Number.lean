import RuntimeFlag.Decimal.Shortest
/-!
# Numbers of a JSON text

A numeral is the written form of a number. One without point and exponent that fits into 64 bits is
an integer; any other one is a binary fraction, or out of range.
-/
namespace RuntimeFlag.Json

inductive Number
  | natural (n : Nat)
  | negative (magnitude : Nat)
  | fraction (value : Float)

/-- A numeral taken apart into its digits. -/
structure Numeral where
  negative : Bool
  whole : List Nat
  /-- The digits after the point; empty when there is no point. -/
  fraction : List Nat
  /-- Whether the exponent is negative, and its digits. -/
  exponent : Option (Bool × List Nat)

namespace Numeral

def digitValue (c : Char) : Nat := c.toNat - '0'.toNat

private def ofExponent : List Char → Bool × List Nat
  | '-' :: digits => (true, digits.map digitValue)
  | '+' :: digits => (false, digits.map digitValue)
  | digits => (false, digits.map digitValue)

/-- Takes a well-formed numeral apart. -/
def ofChars (written : List Char) : Numeral :=
  let unsigned := written.dropWhile (· = '-')
  let rest := unsigned.dropWhile Char.isDigit
  let afterPoint := rest.dropWhile (· = '.')
  { negative := written.head? = some '-'
    whole := (unsigned.takeWhile Char.isDigit).map digitValue
    fraction := (afterPoint.takeWhile Char.isDigit).map digitValue
    exponent := match afterPoint.dropWhile Char.isDigit with
      | [] => none
      | _ :: digits => some (ofExponent digits) }

def maxSignificand : Nat := 0xFFFFFFFFFFFFFFFF

/-- Puts digits behind a significand while it fits, and gives the digits that are left. -/
def extend (significand : Nat) : List Nat → Nat × List Nat
  | [] => (significand, [])
  | d :: ds =>
    if significand * 10 + d ≤ maxSignificand then extend (significand * 10 + d) ds
    else (significand, d :: ds)

private def maxExponent : Nat := 0x7FFFFFFF

/-- The value of the digits of an exponent, or `none` above `maxExponent`. -/
private def exponentValue? (value : Nat) : List Nat → Option Nat
  | [] => some value
  | d :: ds => if value * 10 + d ≤ maxExponent then exponentValue? (value * 10 + d) ds else none

private def clampExponent (e : Int) : Int :=
  max (-0x80000000) (min maxExponent e)

private def powerOfTen (e : Nat) : Float := Float.ofScientific 1 false e

/-- Scales by a power of ten in steps that a float can hold; `none` when the result is too large. -/
private def scale (x : Float) : Nat → Int → Option Float
  | 0, _ => some x
  | steps + 1, e =>
    if e.natAbs ≤ 308 then
      if e < 0 then some (x / powerOfTen e.natAbs)
      else
        let y := x * powerOfTen e.natAbs
        if y.isInf then none else some y
    else if x == 0 then some x
    else if 0 < e then none
    else scale (x / powerOfTen 308) steps (e + 308)

/-- The value of a numeral, or `none` when it is out of range. -/
def number? (n : Numeral) : Option Number :=
  let (significand, beyond) := extend 0 n.whole
  if beyond.isEmpty && n.fraction.isEmpty && n.exponent.isNone then
    if !n.negative then some (.natural significand)
    else if significand = 0 || significand > 0x8000000000000000 then
      some (.fraction (-significand.toUInt64.toFloat))
    else some (.negative significand)
  else
    let (significand, left) := extend significand n.fraction
    let shift : Int := Int.ofNat beyond.length - Int.ofNat (n.fraction.length - left.length)
    let signed (x : Float) : Number := .fraction (if n.negative then -x else x)
    let scaled (e : Int) := (scale significand.toUInt64.toFloat 4 e).map signed
    match n.exponent with
    | none => scaled shift
    | some (down, digits) =>
      match exponentValue? 0 digits with
      | some e => scaled (clampExponent (if down then shift - e else shift + e))
      | none => if significand ≠ 0 && !down then none else some (signed 0)

end Numeral

/-- Digits with a point after the first `whole` of them. -/
private def pointed (digits : List Char) (whole : Nat) : List Char :=
  digits.take whole ++ '.' :: digits.drop whole

/-- A fraction as messages show it: the fewest digits that read back, with a point for magnitudes
from `1e-5` to below `1e16` and with an exponent otherwise. -/
def fractionText (x : Float) : String :=
  let sign := if x.toBits.toNat ≥ 0x8000000000000000 then "-" else ""
  if x == 0 then sign ++ "0.0"
  else
    let d := Decimal.shortest (.ofFloat x)
    let digits := Nat.toDigits 10 d.digits
    let leading : Int := d.exponent + Int.ofNat digits.length - 1
    let chars : List Char :=
      if 0 ≤ d.exponent && leading ≤ 15 then
        digits ++ List.replicate d.exponent.toNat '0' ++ ['.', '0']
      else if 0 ≤ leading && leading ≤ 15 then pointed digits (leading.toNat + 1)
      else if -5 ≤ leading && leading < 0 then
        '0' :: '.' :: List.replicate (-leading - 1).toNat '0' ++ digits
      else
        (if digits.length = 1 then digits else pointed digits 1) ++
          'e' :: (if leading < 0 then '-' else '+') :: Nat.toDigits 10 leading.natAbs
    sign ++ String.ofList chars

end RuntimeFlag.Json
