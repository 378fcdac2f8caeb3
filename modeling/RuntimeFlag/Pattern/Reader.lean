import RuntimeFlag.Pattern.Bracket
import RuntimeFlag.Pattern.Group
/-!
# Written patterns from texts

A pattern is read from left to right. Groups that are open are kept with what was read before them.
-/
namespace RuntimeFlag.Pattern

/-- The branches of a group that are read, and the parts of the branch that is being read; both have
the last one first. -/
private structure Level where
  start : Nat
  branches : List Written
  branchStart : Nat
  parts : List Written

private def Level.at (place : Nat) : Level := ⟨place, [], place, []⟩

private def Level.add (level : Level) (part : Written) : Level :=
  { level with parts := part :: level.parts }

/-- The branch that is being read, up to a place. -/
private def Level.branch (level : Level) (stop : Nat) : Written :=
  match level.parts with
  | [] => .nothing ⟨level.branchStart, stop⟩
  | [part] => part
  | parts => .sequence ⟨level.branchStart, stop⟩ parts.reverse

/-- Ends a branch before a bar at a place. -/
private def Level.endBranch (level : Level) (place : Nat) : Level :=
  { level with
    branches := level.branch place :: level.branches, branchStart := place + 1, parts := [] }

/-- The pattern of a group that ends at a place. -/
private def Level.toWritten (level : Level) (stop : Nat) : Written :=
  match level.branches with
  | [] => level.branch stop
  | branches => .alternatives ⟨level.start, stop⟩ (level.branch stop :: branches).reverse

/-- A group that is open: what was read before it, where it starts, what it is, and whether blanks
were skipped before it. -/
private structure OpenGroup where
  before : Level
  start : Nat
  isKept : Bool
  changes : FlagChanges
  skippedBlanks : Bool

private structure ReadState where
  level : Level
  groups : List OpenGroup
  names : GroupNames
  cursor : Cursor

/-- Repeats the last part that was read. The signs of the repetition go up to the place of `next`.
-/
private def ReadState.repeatLast (state : ReadState) (least : Nat) (greatest : Option Nat)
    (next : Cursor) : Except Fault ReadState :=
  match state.level.parts with
  | [] | .nothing _ :: _ | .flags _ _ :: _ => fail .repetitionOfNothing state.cursor.here
  | body :: parts =>
    let whole := Written.repeated (next.since body.span.start) body least greatest
    pure { state with level := { state.level with parts := whole :: parts }, cursor := next }

/-- The counts of a repetition have to be below this. -/
private def countLimit : Nat := 4294967296

/-- Reads a count: a number, where it stands and whether it is one. -/
private def readCount (cursor : Cursor) : Except Fault Nat × Cursor :=
  let (_, first) := cursor.collect Text.isBlank
  let (digits, last) := first.collect Char.isDigit
  let (_, next) := last.collect Text.isBlank
  let span := last.since first.place
  let count := digits.foldl (fun n digit => 10 * n + (digit.1.toNat - 48)) 0
  (if digits.isEmpty then fail .countEmpty span
    else if countLimit ≤ count then fail .decimalInvalid span
    else pure count, next)

/-- Reads the counts of a repetition between braces. -/
private def readCounts (cursor : Cursor) : Except Fault (Nat × Option Nat × Cursor) := do
  let first := cursor.advance
  let unclosed (next : Cursor) : Except Fault Unit :=
    if next.isAtEnd then fail .countsUnclosed (next.since cursor.place) else pure ()
  unclosed first
  let (count, last) := readCount first
  unclosed last
  let (least, greatest, last) ←
    if last.isAt ',' then do
      let second := last.advance
      unclosed second
      let least ← count
      if second.isAt '\x7d' then pure (least, none, second)
      else
        let (count, last) := readCount second
        pure (least, some (← count), last)
    else do
      let count ← count
      pure (count, some count, last)
  if !last.isAt '\x7d' then fail .countsUnclosed (last.since cursor.place)
  else
    let next := last.advance
    let next := if next.isAt '?' then next.pass 1 else next
    if greatest.any (· < least) then fail .countsInvalid (next.since cursor.place)
    else pure (least, greatest, next)

private def ReadState.readRepetition (state : ReadState) (least : Nat) (greatest : Option Nat) :
    Except Fault ReadState :=
  let next := state.cursor.pass 1
  state.repeatLast least greatest (if next.isAt '?' then next.pass 1 else next)

private def ReadState.readCounted (state : ReadState) : Except Fault ReadState := do
  let _ ← state.repeatLast 0 none state.cursor
  let (least, greatest, next) ← readCounts state.cursor
  state.repeatLast least greatest next

private def ReadState.open (state : ReadState) : Except Fault ReadState := do
  let start := state.cursor.place
  let (opening, names, next) ← readOpeningParenthesis state.names state.cursor
  let skipsNow (changes : FlagChanges) : Bool :=
    (changes.of? .skipBlanks).getD state.cursor.skipsBlanks
  match opening with
  | .flags changes =>
    pure { state with
      level := state.level.add (.flags (next.since start) changes)
      names := names
      cursor := { next with skipsBlanks := skipsNow changes } }
  | .group kept changes =>
    pure {
      level := .at next.place
      groups := ⟨state.level, start, kept, changes, state.cursor.skipsBlanks⟩ :: state.groups
      names := names
      cursor := { next with skipsBlanks := skipsNow changes } }

private def ReadState.close (state : ReadState) : Except Fault ReadState :=
  match state.groups with
  | [] => fail .groupUnopened state.cursor.charSpan
  | opened :: rest =>
    let next := state.cursor.pass 1
    let body := state.level.toWritten state.cursor.place
    let whole := Written.group (next.since opened.start) opened.isKept opened.changes body
    pure { state with
      level := opened.before.add whole
      groups := rest
      cursor := { next with skipsBlanks := opened.skippedBlanks } }

private def ReadState.add (state : ReadState) (part : Written) (next : Cursor) : ReadState :=
  { state with level := state.level.add part, cursor := next }

/-- Reads one part of a pattern, or one sign. -/
private def ReadState.step (state : ReadState) (c : Char) : Except Fault ReadState :=
  let cursor := state.cursor
  let span := cursor.charSpan
  let next := cursor.pass 1
  match c with
  | '(' => state.open
  | ')' => state.close
  | '|' => pure { state with level := state.level.endBranch cursor.place, cursor := next }
  | '[' => (readBracketed cursor).map fun (set, next) => state.add set next
  | '?' => state.readRepetition 0 (some 1)
  | '*' => state.readRepetition 0 none
  | '+' => state.readRepetition 1 none
  | '\x7b' => state.readCounted
  | '\\' => (readEscape cursor).map fun (part, next) => state.add part next
  | '.' => pure (state.add (.dot span) next)
  | '^' => pure (state.add (.place span .lineStart) next)
  | '$' => pure (state.add (.place span .lineEnd) next)
  | c => pure (state.add (.literal ⟨span, c, false⟩) next)

/-- Reads up to the end of a pattern. A step reads at least one character. -/
private def readAll : Nat → ReadState → Except Fault ReadState
  | 0, state => pure state
  | steps + 1, state =>
    let state := { state with cursor := state.cursor.skip }
    match state.cursor.char? with
    | none => pure state
    | some c => (state.step c).bind (readAll steps)

def Written.ofText (text : String) : Except Fault Written := do
  let cs := text.toList
  let last ← readAll (cs.length + 1) ⟨.at 0, [], [], ⟨0, cs, false⟩⟩
  match last.groups with
  | opened :: _ => fail .groupUnclosed ⟨opened.start, opened.start + 1⟩
  | [] =>
    let written := last.level.toWritten last.cursor.place
    match written.tooDeep? 0 with
    | some span => fail .nestedTooDeep span
    | none => pure written

end RuntimeFlag.Pattern
