/-!
# Sets of characters

A set of characters as closed ranges of code points, in ascending order and with gaps between them,
so that one set has one form.
-/
namespace RuntimeFlag

/-- A set of characters. -/
structure CharSet where
  ranges : List (Nat × Nat)
  deriving DecidableEq, Repr

namespace CharSet

def empty : CharSet := ⟨[]⟩

def has (set : CharSet) (c : Char) : Bool :=
  set.ranges.any fun (low, high) => low ≤ c.toNat && c.toNat ≤ high

def isEmpty (set : CharSet) : Bool := set.ranges.isEmpty

def isSingle (set : CharSet) : Bool :=
  match set.ranges with
  | [(low, high)] => low = high
  | _ => false

def isAscii (set : CharSet) : Bool := set.ranges.all fun (_, high) => high < 0x80

/-- Puts a range among ranges in ascending order, and makes one of those that touch it. -/
private def insertRange (low high : Nat) : List (Nat × Nat) → List (Nat × Nat)
  | [] => [(low, high)]
  | (first, last) :: rest =>
    if high + 1 < first then (low, high) :: (first, last) :: rest
    else if last + 1 < low then (first, last) :: insertRange low high rest
    else insertRange (min low first) (max high last) rest

/-- The characters of some ranges of code points. -/
def ofRanges (ranges : List (Nat × Nat)) : CharSet :=
  ⟨ranges.foldr (fun (low, high) known => insertRange low high known) []⟩

def range (low high : Char) : CharSet := ofRanges [(low.toNat, high.toNat)]

def one (c : Char) : CharSet := range c c

def ofText (text : String) : CharSet :=
  ofRanges (text.toList.map fun c => (c.toNat, c.toNat))

def union (left right : CharSet) : CharSet := ofRanges (left.ranges ++ right.ranges)

/-- The code points from a place on that are not in the ranges. -/
private def gaps (low : Nat) : List (Nat × Nat) → List (Nat × Nat)
  | [] => if low ≤ 0x10FFFF then [(low, 0x10FFFF)] else []
  | (first, last) :: rest =>
    if low < first then (low, first - 1) :: gaps (last + 1) rest else gaps (last + 1) rest

/-- The code points that are no characters. -/
private def surrogates : CharSet := ⟨[(0xD800, 0xDFFF)]⟩

def complement (set : CharSet) : CharSet := ⟨gaps 0 (set.union surrogates).ranges⟩

def intersection (left right : CharSet) : CharSet :=
  (left.complement.union right.complement).complement

def difference (left right : CharSet) : CharSet := left.intersection right.complement

def symmetricDifference (left right : CharSet) : CharSet :=
  (left.difference right).union (right.difference left)

private def shifted (low high : Nat) (shift : Nat → Nat) (range : Nat × Nat) :
    Option (Nat × Nat) :=
  let (first, last) := (max low range.1, min high range.2)
  if first ≤ last then some (shift first, shift last) else none

/-- The characters that are in the set in either case of the letters `a` to `z`. -/
def anyCase (set : CharSet) : CharSet :=
  ofRanges (set.ranges ++ set.ranges.filterMap (shifted 0x61 0x7A (· - 32)) ++
    set.ranges.filterMap (shifted 0x41 0x5A (· + 32)))

def digit : CharSet := range '0' '9'

def letter : CharSet := union (range 'a' 'z') (range 'A' 'Z')

/-- The characters of words: letters, digits and the low line. -/
def word : CharSet := union (union letter digit) (one '_')

/-- The blank characters of ASCII. -/
def space : CharSet := ofText " \t\n\r\x0b\x0c"

/-- The sets of ASCII that have a name. -/
def named? (name : List Char) : Option CharSet :=
  match String.ofList name with
  | "alnum" => some (union letter digit)
  | "alpha" => some letter
  | "ascii" => some (range '\x00' '\x7f')
  | "blank" => some (ofText " \t")
  | "cntrl" => some (union (range '\x00' '\x1f') (one '\x7f'))
  | "digit" => some digit
  | "graph" => some (range '!' '~')
  | "lower" => some (range 'a' 'z')
  | "print" => some (range ' ' '~')
  | "punct" => some (ofRanges [(0x21, 0x2F), (0x3A, 0x40), (0x5B, 0x60), (0x7B, 0x7E)])
  | "space" => some space
  | "upper" => some (range 'A' 'Z')
  | "word" => some word
  | "xdigit" => some (ofRanges [(0x30, 0x39), (0x41, 0x46), (0x61, 0x66)])
  | _ => none

end CharSet

end RuntimeFlag
