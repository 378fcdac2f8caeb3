import RuntimeFlag.Pattern.Cursor
import RuntimeFlag.Pattern.Written
import RuntimeFlag.Text.Hex
/-!
# Escapes

What a backslash starts in a written pattern: a character by name or by number, a class of
characters, or a condition on the place.
-/
namespace RuntimeFlag.Pattern

private def codeOf (digits : List (Char × Span)) : Nat :=
  digits.foldl (fun n digit => 16 * n + (Text.hexValue? digit.1).getD 0) 0

private def charOf (code : Nat) (span : Span) : Except Fault Char :=
  if Nat.isValidChar code then pure (Char.ofNat code) else fail .hexInvalid span

private def readDigits : Nat → Nat → Cursor → Except Fault (Nat × Cursor)
  | 0, code, cursor => pure (code, cursor)
  | count + 1, code, cursor =>
    match cursor.char? with
    | none => fail .escapeIncomplete cursor.here
    | some c =>
      match Text.hexValue? c with
      | none => fail .hexDigitInvalid cursor.charSpan
      | some digit => readDigits count (16 * code + digit) cursor.advance

/-- Reads hexadecimal digits between braces. -/
private def readBracedDigits (cursor : Cursor) : Except Fault (Char × Cursor) := do
  let (digits, last) := cursor.advance.collect (· ≠ '\x7d')
  match digits.find? fun digit => (Text.hexValue? digit.1).isNone with
  | some (_, span) => fail .hexDigitInvalid span
  | none =>
    if last.isAtEnd then fail .escapeIncomplete (last.since cursor.place)
    else
      let next := last.advance
      if digits.isEmpty then fail .hexEmpty (next.since cursor.place)
      else pure (← charOf (codeOf digits) ⟨cursor.place + 1, last.place⟩, next)

/-- Reads the number of a character after `x`, `u` or `U`, of which the letter gives the number of
digits; any number of digits may stand between braces. -/
private def readCode (start : Nat) (letter : Char) (cursor : Cursor) :
    Except Fault (Written × Cursor) := do
  let first := cursor.advance
  if first.isAtEnd then fail .escapeIncomplete first.here
  else if first.isAt '\x7b' then
    let (c, next) ← readBracedDigits first
    pure (.literal ⟨next.since start, c, false⟩, next)
  else
    let count := if letter = 'x' then 2 else if letter = 'u' then 4 else 8
    let (code, next) ← readDigits count 0 first
    let c ← charOf code (next.since first.place)
    pure (.literal ⟨next.since start, c, letter = 'x'⟩, next)

/-- Reads the name of a property after its letter: one character, or any between braces. -/
private def readProperty (start : Nat) (cursor : Cursor) : Except Fault (Written × Cursor) :=
  let first := cursor.advance
  match first.char? with
  | none => fail .escapeIncomplete first.here
  | some '\x7b' =>
    let (name, last) := first.advance.collect (· ≠ '\x7d')
    if last.isAtEnd then fail .escapeIncomplete last.here
    else
      let next := last.pass 1
      pure (.property (next.since start) (name.map (·.1)), next)
  | some '\\' => fail .propertyInvalid first.charSpan
  | some c =>
    let next := first.advance
    pure (.property (next.since start) [c], next)

private def isWordPlaceChar (c : Char) : Bool := c.isAlpha || c = '-'

private def wordPlace? (name : List Char) : Option WordPlace :=
  match String.ofList name with
  | "start" => some .start
  | "end" => some .stop
  | "start-half" => some .startHalf
  | "end-half" => some .stopHalf
  | _ => none

/-- Reads which place of a word is meant, between braces after `b`. Braces in which no letter comes
first are left to be read as counts. -/
private def readWordPlace (start : Nat) (cursor : Cursor) : Except Fault (Written × Cursor) := do
  let edge : Written := .place (cursor.since start) (.word .edge)
  if !cursor.isAt '\x7b' then pure (edge, cursor)
  else
    let first := cursor.advance
    if first.isAtEnd then fail .wordPlaceOrCountsUnclosed (first.since start)
    else if !first.char?.any isWordPlaceChar then pure (edge, cursor)
    else
      let (name, last) := first.collect isWordPlaceChar
      if !last.isAt '\x7d' then fail .wordPlaceUnclosed (last.since cursor.place)
      else
        let next := last.pass 1
        match wordPlace? (name.map (·.1)) with
        | some kind => pure (.place (next.since start) (.word kind), next)
        | none => fail .wordPlaceUnknown (last.since first.place)

/-- Whether a character stands for itself after a backslash. -/
private def isEscapable (c : Char) : Bool :=
  c.toNat < 0x80 && !c.isAlphanum && c ≠ '<' && c ≠ '>'

private def control? : Char → Option Char
  | 'a' => some '\x07'
  | 'f' => some '\x0c'
  | 'n' => some '\n'
  | 'r' => some '\r'
  | 't' => some '\t'
  | 'v' => some '\x0b'
  | _ => none

/-- The condition on a place that a character after a backslash names. -/
private def place? : Char → Option WrittenPlace
  | 'A' => some .textStart
  | 'z' => some .textEnd
  | 'B' => some (.word .noEdge)
  | '<' => some (.word .start)
  | '>' => some (.word .stop)
  | _ => none

private def letterClass? (c : Char) : Option LetterClass :=
  match c.toLower with
  | 'd' => some .digit
  | 's' => some .space
  | 'w' => some .word
  | _ => none

/-- Reads what a backslash at the place starts. -/
def readEscape (cursor : Cursor) : Except Fault (Written × Cursor) :=
  let start := cursor.place
  let named := cursor.pass 1
  let next := named.pass 1
  match named.char? with
  | none => fail .escapeIncomplete (named.since start)
  | some c =>
    if c.isDigit then fail .backreference (next.since start)
    else if c = 'x' || c = 'u' || c = 'U' then readCode start c named
    else if c = 'p' || c = 'P' then readProperty start named
    else if c = 'b' then readWordPlace start next
    else
      match letterClass? c, place? c, control? c with
      | some letter, _, _ => pure (.letterClass (next.since start) letter c.isUpper, next)
      | none, some kind, _ => pure (.place (next.since start) kind, next)
      | none, none, some control => pure (.literal ⟨next.since start, control, false⟩, next)
      | none, none, none =>
        if isEscapable c then pure (.literal ⟨next.since start, c, false⟩, next)
        else fail .escapeUnknown (next.since start)

end RuntimeFlag.Pattern
