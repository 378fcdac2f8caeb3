import RuntimeFlag.Pattern.Basic
/-!
# The room of a pattern

How many bytes the machine takes that a pattern is made into. The machine reads the bytes of a text,
forwards or backwards, and has a state for each step of reading. A pattern that would take too much
room is refused.
-/
namespace RuntimeFlag.Pattern

private def stateRoom : Nat := 32

/-- The room of a state from which `count` others are reached without reading. -/
private def forkRoom (count : Nat) : Nat := stateRoom + 4 * count

/-- The room of a state from which others are reached by `count` ranges of bytes. -/
private def tableRoom (count : Nat) : Nat := stateRoom + 8 * count

/-! ## Characters as bytes -/

/-- The ranges of the numbers from `low` to `high` in base 64, with `count` digits after the first
one: each is a list of ranges of digits. -/
private def digitRanges : Nat → Nat → Nat → List (List (Nat × Nat))
  | 0, low, high => [[(low, high)]]
  | count + 1, low, high =>
    let unit := Nat.pow 64 (count + 1)
    let first := low / unit
    let last := high / unit
    if first = last then
      (digitRanges count (low % unit) (high % unit)).map ((first, first) :: ·)
    else
      let isFullFirst := low % unit = 0
      let isFullLast := high % unit = unit - 1
      let front :=
        if isFullFirst then []
        else (digitRanges count (low % unit) (unit - 1)).map ((first, first) :: ·)
      let back :=
        if isFullLast then []
        else (digitRanges count 0 (high % unit)).map ((last, last) :: ·)
      let low := if isFullFirst then first else first + 1
      let high := if isFullLast then last else last - 1
      let middle :=
        if low ≤ high then [(low, high) :: List.replicate (count + 1) (0, 63)] else []
      front ++ middle ++ back

/-- How many bytes follow the first one of a character, for which code points, and what the first
byte adds to its digit. -/
private def byteForms : List (Nat × Nat × Nat × Nat) :=
  [(0, 0, 0x7F, 0), (1, 0x80, 0x7FF, 0xC0), (2, 0x800, 0xD7FF, 0xE0), (2, 0xE000, 0xFFFF, 0xE0),
    (3, 0x10000, 0x10FFFF, 0xF0)]

/-- The ranges of bytes that write the characters of a range. -/
private def byteRanges (range : Nat × Nat) : List (List (Nat × Nat)) :=
  byteForms.flatMap fun (count, low, high, mark) =>
    let (low, high) := (max low range.1, min high range.2)
    if high < low then []
    else
      (digitRanges count low high).map fun ranges =>
        match ranges with
        | (first, last) :: rest => (first + mark, last + mark) :: rest
        | [] => []

private def starts (ranges : List (Nat × Nat)) : List (List (Nat × Nat)) :=
  (List.range ranges.length).map fun i => ranges.take (i + 1)

private def ends (ranges : List (Nat × Nat)) : List (List (Nat × Nat)) :=
  (List.range (ranges.length - 1)).map fun i => ranges.drop (i + 1)

/-- The room of a set. Sequences of bytes with the same end share the states that read it; backwards
those with the same start do. -/
private def setRoom (isBackward : Bool) (set : CharSet) : Nat :=
  let written := set.ranges.flatMap byteRanges
  if set.isSingle then
    stateRoom * (written.map List.length).foldl (· + ·) 0
  else if set.isAscii then tableRoom set.ranges.length + stateRoom
  else if isBackward then
    stateRoom * (written.flatMap starts).eraseDups.length + forkRoom written.length + stateRoom
  else
    let shared := (written.flatMap ends).eraseDups.length
    tableRoom written.length + tableRoom 1 * shared + stateRoom

/-! ## Patterns -/

/-- Whether a pattern may match without a character somewhere. -/
private def mayTakeNothing : Pattern → Bool
  | .empty | .place _ => true
  | .char _ => false
  | .sequence first second => first.mayTakeNothing && second.mayTakeNothing
  | .either left right => left.mayTakeNothing || right.mayTakeNothing
  | .repeated body least _ => least = 0 || body.mayTakeNothing
  | .group body => body.mayTakeNothing

/-- The room of a pattern; a branch shares the fork and the end of the other branches. -/
private def partRoom (isBackward isBranch : Bool) : Pattern → Nat
  | .empty | .place _ => stateRoom
  | .char set => setRoom isBackward set
  | .sequence first second => first.partRoom isBackward false + second.partRoom isBackward false
  | .either left right =>
    (if isBranch then 0 else forkRoom 1 + stateRoom) + 4 + left.partRoom isBackward true +
      right.partRoom isBackward true
  | .repeated body 0 none =>
    body.partRoom isBackward false +
      if body.mayTakeNothing then 2 * forkRoom 2 + stateRoom else forkRoom 2
  | .repeated body least none => least * body.partRoom isBackward false + forkRoom 2
  | .repeated body least (some greatest) =>
    let room := body.partRoom isBackward false
    if greatest = least then least * room
    else least * room + (greatest - least) * (room + forkRoom 2) + stateRoom
  | .group body =>
    body.partRoom isBackward false + if isBackward then 0 else 2 * stateRoom

/-- The room of the machine for a pattern, with the states that pass what stands before its match,
those that keep the match, and the last one. -/
def room (pattern : Pattern) (isBackward : Bool) : Nat :=
  let passing := forkRoom 2 + tableRoom 1 + stateRoom
  let keeping := if isBackward then 0 else 2 * stateRoom
  passing + keeping + pattern.partRoom isBackward false + stateRoom

/-- The greatest room that a pattern may take. -/
def roomLimit : Nat := 10485760

end RuntimeFlag.Pattern
