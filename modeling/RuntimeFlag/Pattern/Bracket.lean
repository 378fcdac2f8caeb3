import RuntimeFlag.Pattern.Escape
/-!
# Sets in brackets

A set in brackets has characters, ranges, classes and other sets, with two signs between sets that
are put together. A bracket that closes it cannot be its first item, and hyphens right after the
opening bracket stand for themselves.
-/
namespace RuntimeFlag.Pattern

/-- The items of a set that are read, the last one first, and where they stand. -/
private structure Items where
  span : Span
  items : List WrittenSet

private def Items.start (cursor : Cursor) : Items := ⟨cursor.here, []⟩

private def Items.add (known : Items) (item : WrittenSet) : Items :=
  let start := if known.items.isEmpty then item.span.start else known.span.start
  ⟨⟨start, item.span.stop⟩, item :: known.items⟩

private def Items.toSet (known : Items) : WrittenSet :=
  match known.items with
  | [] => .nothing known.span
  | [item] => item
  | items => .union known.span items.reverse

/-- A set that is being read: its opening, and the set in front of the items read now that these are
put together with. -/
private structure OpenSet where
  span : Span
  isNegated : Bool
  left : Option (SetOperation × WrittenSet)

/-- The set of an open one from the items after the last operation. -/
private def OpenSet.joined (opened : OpenSet) (items : Items) : WrittenSet :=
  let right := items.toSet
  match opened.left with
  | some (operation, left) => .operation ⟨left.span.start, right.span.stop⟩ operation left right
  | none => right

/-- Reads hyphens that stand for themselves. -/
private def readHyphens (start : Nat) : Nat → Items → Cursor → Except Fault (Items × Cursor)
  | 0, items, cursor => pure (items, cursor)
  | count + 1, items, cursor =>
    if cursor.isAt '-' then
      let next := cursor.advance
      if next.isAtEnd then fail .setUnclosed ⟨start, start⟩
      else readHyphens start count (items.add (.literal ⟨cursor.charSpan, '-', false⟩)) next
    else pure (items, cursor)

/-- Reads the opening of a set: its bracket, the sign that negates it, and the items that can stand
only there. -/
private def readOpening (cursor : Cursor) : Except Fault (OpenSet × Items × Cursor) := do
  let start := cursor.place
  let unclosed (cursor : Cursor) : Except Fault Unit :=
    if cursor.isAtEnd then fail .setUnclosed (cursor.since start) else pure ()
  let first := cursor.advance
  unclosed first
  let isNegated := first.isAt '^'
  let first := if isNegated then first.advance else first
  unclosed first
  let (items, next) ← readHyphens start first.rest.length (.start first) first
  if items.items.isEmpty && next.isAt ']' then
    let after := next.advance
    unclosed after
    let items := items.add (.literal ⟨next.charSpan, ']', false⟩)
    pure (⟨after.since start, isNegated, none⟩, items, after)
  else pure (⟨next.since start, isNegated, none⟩, items, next)

/-- Reads a class of ASCII by its name: `[:alpha:]`. -/
private def readNamed? (cursor : Cursor) : Option (WrittenSet × Cursor) :=
  match cursor.rest with
  | '[' :: ':' :: rest =>
    let isNegated := rest.head? = some '^'
    let name := (if isNegated then rest.tail else rest).takeWhile (· ≠ ':')
    let next := cursor.pass (name.length + if isNegated then 3 else 2)
    if next.isAtText ":]" then
      let next := next.pass 2
      (CharSet.named? name).map fun set => (.named (next.since cursor.place) set isNegated, next)
    else none
  | _ => none

private def readMember (cursor : Cursor) : Except Fault (Written × Cursor) :=
  match cursor.char? with
  | some '\\' => readEscape cursor
  | some c => pure (.literal ⟨cursor.charSpan, c, false⟩, cursor.pass 1)
  | none => fail .setUnclosed cursor.here

private def itemOf : Written → Except Fault WrittenSet
  | .literal l => pure (.literal l)
  | .letterClass span letter isNegated => pure (.letterClass span letter isNegated)
  | .property span name => pure (.property span name)
  | other => fail .setEscapeInvalid other.span

private def boundaryOf : Written → Except Fault Literal
  | .literal l => pure l
  | other => fail .setRangeBoundary other.span

/-- Reads a character, a class or a range; `unclosed` is where the set starts. -/
private def readItem (unclosed : Span) (cursor : Cursor) :
    Except Fault (WrittenSet × Cursor) := do
  let (first, next) ← readMember cursor
  let next := next.skip
  if next.isAtEnd then fail .setUnclosed unclosed
  else if !next.isAt '-' || next.peek? = some ']' || next.peek? = some '-' then
    pure (← itemOf first, next)
  else
    let second := next.advance
    if second.isAtEnd then fail .setUnclosed unclosed
    else
      let (last, next) ← readMember second
      let span : Span := ⟨first.span.start, last.span.stop⟩
      let low ← boundaryOf first
      let high ← boundaryOf last
      if high.char < low.char then fail .setRangeInvalid span
      else pure (.range span low high, next)

/-- The operation whose two signs stand at a place. -/
private def operation? (cursor : Cursor) : Option SetOperation :=
  if cursor.isAtText "&&" then some .intersection
  else if cursor.isAtText "--" then some .difference
  else if cursor.isAtText "~~" then some .symmetricDifference
  else none

/-- Reads the items of a set up to its closing bracket; `outer` are the sets around it with their
items. A step reads at least one character. -/
private def readItems : Nat → OpenSet → Items → List (OpenSet × Items) → Cursor →
    Except Fault (Written × Cursor)
  | 0, inner, _, _, _ => fail .setUnclosed inner.span
  | steps + 1, inner, items, outer, cursor => do
    let cursor := cursor.skip
    match cursor.char? with
    | none => fail .setUnclosed inner.span
    | some '[' =>
      match readNamed? cursor with
      | some (named, next) => readItems steps inner (items.add named) outer next
      | none =>
        let (opened, first, next) ← readOpening cursor
        readItems steps opened first ((inner, items) :: outer) next
    | some ']' =>
      let next := cursor.pass 1
      let span : Span := ⟨inner.span.start, next.place⟩
      let set := inner.joined items
      match outer with
      | [] => pure (.bracketed span inner.isNegated set, next)
      | (around, known) :: outer =>
        readItems steps around (known.add (.bracketed span inner.isNegated set)) outer next
    | some _ =>
      match operation? cursor with
      | some operation =>
        let next := cursor.pass 2
        readItems steps { inner with left := some (operation, inner.joined items) } (.start next)
          outer next
      | none =>
        let (item, next) ← readItem inner.span cursor
        readItems steps inner (items.add item) outer next

/-- Reads a set whose opening bracket is at the place. -/
def readBracketed (cursor : Cursor) : Except Fault (Written × Cursor) := do
  let (opened, items, next) ← readOpening cursor
  readItems (next.rest.length + 1) opened items [] next

end RuntimeFlag.Pattern
