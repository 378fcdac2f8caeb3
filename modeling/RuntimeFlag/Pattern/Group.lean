import RuntimeFlag.Pattern.Cursor
import RuntimeFlag.Pattern.Written
import RuntimeFlag.Text.Letter
/-!
# Openings of groups

What an opening parenthesis starts: a group that is kept apart, with or without a name, a group with
flags, or flags for the rest of the group around it.
-/
namespace RuntimeFlag.Pattern

/-- What an opening parenthesis starts. -/
inductive Opening
  | flags (changes : FlagChanges)
  | group (isKept : Bool) (changes : FlagChanges)

/-- The names of the groups that are read, and where they stand. -/
abbrev GroupNames := List (List Char × Span)

/-- Whether a character can stand in the name of a group, as its first one or after it. -/
private def isNameChar (isFirst : Bool) (c : Char) : Bool :=
  if isFirst then c = '_' || Text.isAlphabetic c
  else c = '_' || c = '.' || c = '[' || c = ']' || Text.isAlphabetic c || Text.isNumeric c

private def readName (names : GroupNames) (cursor : Cursor) : Except Fault (GroupNames × Cursor) :=
  let name := cursor.rest.takeWhile (· ≠ '>')
  let last := cursor.pass name.length
  match name.zipIdx.find? fun (c, i) => !isNameChar (i = 0) c with
  | some (_, i) => fail .nameInvalid (cursor.pass i).charSpan
  | none =>
    if last.isAtEnd then fail .nameUnclosed last.here
    else if name.isEmpty then fail .nameEmpty cursor.here
    else
      let span := last.since cursor.place
      match names.find? (·.1 = name) with
      | some (_, earlier) => .error ⟨.nameDuplicate, span, some earlier⟩
      | none => pure ((name, span) :: names, last.pass 1)

private def flag? : Char → Option Flag
  | 'i' => some .anyCase
  | 'm' => some .multiLine
  | 's' => some .dotIsAll
  | 'U' => some .shortest
  | 'u' => some .unicode
  | 'R' => some .feedOrReturn
  | 'x' => some .skipBlanks
  | _ => none

/-- What is read of flags: the flags themselves with the place of each, the last one first, the sign
that negates those after it, and whether it is the last thing read. -/
private structure FlagsRead where
  flags : List (Flag × Bool × Span)
  negation : Option Span
  isDangling : Bool

private def FlagsRead.add (known : FlagsRead) (c : Char) (span : Span) : Except Fault FlagsRead :=
  if c = '-' then
    match known.negation with
    | some earlier => .error ⟨.flagNegationRepeated, span, some earlier⟩
    | none => pure { known with negation := some span, isDangling := true }
  else
    match flag? c with
    | none => fail .flagUnknown span
    | some flag =>
      match known.flags.find? (·.1 = flag) with
      | some (_, _, earlier) => .error ⟨.flagDuplicate, span, some earlier⟩
      | none =>
        pure { known with
          flags := (flag, known.negation.isNone, span) :: known.flags
          isDangling := false }

private def readLetters (cursor : Cursor) : List (Char × Nat) → FlagsRead → Except Fault FlagsRead
  | [], known => pure known
  | (c, i) :: rest, known => do
    readLetters cursor rest (← known.add c (cursor.pass i).charSpan)

private def readFlags (cursor : Cursor) : Except Fault (FlagChanges × Cursor) := do
  let letters := cursor.rest.takeWhile fun c => c ≠ ':' && c ≠ ')'
  let known ← readLetters cursor letters.zipIdx ⟨[], none, false⟩
  let last := cursor.pass letters.length
  if last.isAtEnd then fail .flagsUnclosed last.here
  else
    match known.negation, known.isDangling with
    | some span, true => fail .flagNegationDangling span
    | _, _ => pure (known.flags.reverse.map fun (flag, isOn, _) => (flag, isOn), last)

/-- The signs that start a look around a place. -/
private def lookAround? (cursor : Cursor) : Option String :=
  ["?=", "?!", "?<=", "?<!"].find? cursor.isAtText

/-- Reads what an opening parenthesis at the place starts. -/
def readOpeningParenthesis (names : GroupNames) (cursor : Cursor) :
    Except Fault (Opening × GroupNames × Cursor) :=
  let inner := (cursor.pass 1).skip
  let named (length : Nat) : Except Fault (Opening × GroupNames × Cursor) := do
    let (names, next) ← readName names (inner.pass length)
    pure (.group true [], names, next)
  match lookAround? inner with
  | some sign => fail .lookAround ((inner.pass sign.length).since cursor.place)
  | none =>
    if inner.isAtText "?P<" then named 3
    else if inner.isAtText "?<" then named 2
    else if inner.isAt '?' then do
      let first := inner.pass 1
      if first.isAtEnd then fail .groupUnclosed cursor.charSpan
      else
        let (changes, last) ← readFlags first
        if last.isAt ':' then pure (.group false changes, names, last.pass 1)
        else if changes.isEmpty then fail .repetitionOfNothing inner.here
        else pure (.flags changes, names, last.pass 1)
    else pure (.group true [], names, inner)

end RuntimeFlag.Pattern
