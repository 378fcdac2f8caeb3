import RuntimeFlag.Text.CombiningClass
import RuntimeFlag.Text.Decomposition
/-!
# Composed text

The form in which texts that are written alike are equal: every character is taken apart, the marks
of each are put into the order of their classes, and what makes one character is put together again.
-/
namespace RuntimeFlag.Text

/-- The syllable of two Hangul letters, or of a syllable and its final. -/
def syllable? (a b : Nat) : Option Nat :=
  if 0x1100 ≤ a ∧ a < 0x1113 ∧ 0x1161 ≤ b ∧ b < 0x1176 then
    some (0xAC00 + ((a - 0x1100) * 21 + (b - 0x1161)) * 28)
  else if 0xAC00 ≤ a ∧ a < 0xD7A4 ∧ (a - 0xAC00) % 28 = 0 ∧ 0x11A7 < b ∧ b < 0x11C3 then
    some (a + (b - 0x11A7))
  else none

/-- What a Hangul syllable is made of: two letters, or the syllable before its final. -/
def syllableParts? (n : Nat) : Option (List Nat) :=
  if 0xAC00 ≤ n ∧ n < 0xD7A4 then
    let place := n - 0xAC00
    if place % 28 = 0 then some [0x1100 + place / 588, 0x1161 + place / 28 % 21]
    else some [n - place % 28, 0x11A7 + place % 28]
  else none

/-- What a character is made of. Only the first of the parts may be made of others. -/
def parts? (n : Nat) : Option (List Nat) :=
  syllableParts? n <|> composites.get? n <|> replaced.get? n

/-- Takes a character apart so many times. -/
private def takenApart : Nat → Nat → List Nat
  | 0, n => [n]
  | times + 1, n =>
    match parts? n with
    | some (first :: rest) => takenApart times first ++ rest
    | _ => [n]

/-- A character in parts that are made of no others. No character has to be taken apart more than
four times. -/
def decomposed (n : Nat) : List Nat := takenApart 4 n

/-- Puts a character at the front of a text, past the marks of lower classes than its own. -/
private def insertMark (n : Nat) : List Nat → List Nat
  | [] => [n]
  | m :: rest =>
    if 0 < combiningClass m ∧ combiningClass m < combiningClass n then m :: insertMark n rest
    else n :: m :: rest

/-- The character that two others make. -/
def composite? (a b : Nat) : Option Nat :=
  syllable? a b <|> composites.code? [a, b]

/-- Whether a character is kept from the one that it would join by the marks between them, of which
the last is the first of the list. -/
private def isBlocked (between : List Nat) (n : Nat) : Bool :=
  match between with
  | [] => false
  | m :: _ => combiningClass n ≤ combiningClass m

/-- Puts characters together with a first one, from which some marks part them. -/
private def joined (first : Nat) (between : List Nat) : List Nat → List Nat
  | [] => first :: between.reverse
  | n :: rest =>
    match if isBlocked between n then none else composite? first n with
    | some whole => joined whole between rest
    | none =>
      if combiningClass n = 0 then first :: between.reverse ++ joined n [] rest
      else joined first (n :: between) rest

def composed (cs : List Char) : List Char :=
  match (cs.flatMap (decomposed ·.toNat)).foldr insertMark [] with
  | [] => []
  | first :: rest => (joined first [] rest).map Char.ofNat

end RuntimeFlag.Text
