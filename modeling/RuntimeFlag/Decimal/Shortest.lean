/-!
# Shortest decimals

A binary fraction `m * 2 ^ q` stands for every real number that rounds to it. `shortest` gives the
decimal with the fewest digits among those, and of two such decimals the nearer one.
-/
namespace RuntimeFlag

/-- The number `digits * 10 ^ exponent`. -/
structure Decimal where
  digits : Nat
  exponent : Int
  deriving DecidableEq, Repr

namespace Decimal

/-- A positive binary fraction `significand * 2 ^ exponent`. The spacing below it is half the
spacing above it when `narrowBelow` holds. -/
structure Binary where
  significand : Nat
  exponent : Int
  narrowBelow : Bool

/-- A quotient and the ends of the interval that rounds to it, over one denominator. -/
private structure Span where
  low : Nat
  value : Nat
  high : Nat
  denominator : Nat
  endsIncluded : Bool

private def Binary.span (b : Binary) : Span :=
  let scale := if b.exponent < 2 then 1 else Nat.pow 2 (b.exponent - 2).toNat
  { low := (4 * b.significand - if b.narrowBelow then 1 else 2) * scale
    value := 4 * b.significand * scale
    high := (4 * b.significand + 2) * scale
    denominator := if b.exponent < 2 then Nat.pow 2 (2 - b.exponent).toNat else 1
    endsIncluded := b.significand % 2 == 0 }

/-- Whether `n * 10 ^ e` rounds to the value. -/
private def Span.covers (s : Span) (n : Nat) (e : Int) : Bool :=
  let x := n * Nat.pow 10 e.toNat * s.denominator
  let unit := Nat.pow 10 (-e).toNat
  if s.endsIncluded then s.low * unit ≤ x && x ≤ s.high * unit
  else s.low * unit < x && x < s.high * unit

/-- The greatest `n` with `n * 10 ^ e` at most the value. -/
private def Span.floorAt (s : Span) (e : Int) : Nat :=
  s.value * Nat.pow 10 (-e).toNat / (s.denominator * Nat.pow 10 e.toNat)

/-- Whether the value is nearer to `(n + 1) * 10 ^ e` than to `n * 10 ^ e`; halfway, whether `n` is
odd. -/
private def Span.nearerAbove (s : Span) (n : Nat) (e : Int) : Bool :=
  let twice := 2 * s.value * Nat.pow 10 (-e).toNat
  let middle := (2 * n + 1) * Nat.pow 10 e.toNat * s.denominator
  middle < twice || (middle == twice && n % 2 == 1)

/-- The neighbour of the value on the grid of step `10 ^ e` that rounds to it. -/
private def Span.neighbour? (s : Span) (e : Int) : Option Nat :=
  let n := s.floorAt e
  match s.covers n e && n != 0, s.covers (n + 1) e with
  | true, true => some (if s.nearerAbove n e then n + 1 else n)
  | true, false => some n
  | false, true => some (n + 1)
  | false, false => none

/-- The exponent of the first digit of the value, searched downward. -/
private def Span.leadingFrom (s : Span) : Nat → Int → Int
  | 0, e => e
  | steps + 1, e => if s.floorAt e = 0 then s.leadingFrom steps (e - 1) else e

private def Span.finest (s : Span) (leading : Int) : Nat → Nat → Decimal
  | 0, count => ⟨s.floorAt (leading - count), leading - count⟩
  | more + 1, count =>
    match s.neighbour? (leading - count) with
    | some n => ⟨n, leading - count⟩
    | none => s.finest leading more (count + 1)

/-- The same number with no trailing zero among its digits. -/
private def stripZeros : Nat → Decimal → Decimal
  | 0, d => d
  | steps + 1, d =>
    if d.digits ≠ 0 ∧ d.digits % 10 = 0 then stripZeros steps ⟨d.digits / 10, d.exponent + 1⟩ else d

/-- The shortest decimal that rounds to a 64-bit binary fraction. -/
def shortest (b : Binary) : Decimal :=
  let s := b.span
  stripZeros 20 (s.finest (s.leadingFrom 700 310) 17 0)

/-- The magnitude of a finite nonzero 64-bit float. -/
def Binary.ofFloat (x : Float) : Binary :=
  let bits := x.toBits.toNat
  let fraction : Nat := bits % 0x10000000000000
  let power : Nat := bits / 0x10000000000000 % 2048
  if power = 0 then ⟨fraction, -1074, false⟩
  else ⟨0x10000000000000 + fraction, Int.ofNat power - 1075, fraction == 0 && power > 1⟩

end Decimal

end RuntimeFlag
