import RuntimeFlag.Text.Lines
import RuntimeFlag.Text.Plain
/-!
# Faults of written patterns

What can be wrong with a written pattern, where, and how it is reported: the pattern, marks below
the part that is wrong, and the cause.
-/
namespace RuntimeFlag.Pattern

/-- A part of a written pattern: the characters from a place to another one. -/
structure Span where
  start : Nat
  stop : Nat
  deriving DecidableEq, Repr

/-- How deep the parts of a pattern may be nested. -/
def nestLimit : Nat := 250

/-- What is wrong with a part of a written pattern. -/
inductive Cause
  | setEscapeInvalid
  | setRangeInvalid
  | setRangeBoundary
  | setUnclosed
  | decimalInvalid
  | hexEmpty
  | hexInvalid
  | hexDigitInvalid
  | escapeIncomplete
  | escapeUnknown
  | flagNegationDangling
  | flagDuplicate
  | flagNegationRepeated
  | flagsUnclosed
  | flagUnknown
  | nameDuplicate
  | nameEmpty
  | nameInvalid
  | nameUnclosed
  | groupUnclosed
  | groupUnopened
  | nestedTooDeep
  | countsInvalid
  | countEmpty
  | countsUnclosed
  | repetitionOfNothing
  | wordPlaceUnclosed
  | wordPlaceUnknown
  | wordPlaceOrCountsUnclosed
  | propertyInvalid
  | backreference
  | lookAround
  | unicodeNotAllowed
  | invalidUtf8
  | propertyUnknown
  | propertyValueUnknown
  | unicodeClassUnknown
  | unicodeCaseUnknown
  deriving DecidableEq, Repr

def Cause.message : Cause → String
  | .setEscapeInvalid => "invalid escape sequence found in character class"
  | .setRangeInvalid => "invalid character class range, the start must be <= the end"
  | .setRangeBoundary => "invalid range boundary, must be a literal"
  | .setUnclosed => "unclosed character class"
  | .decimalInvalid => "decimal literal invalid"
  | .hexEmpty => "hexadecimal literal empty"
  | .hexInvalid => "hexadecimal literal is not a Unicode scalar value"
  | .hexDigitInvalid => "invalid hexadecimal digit"
  | .escapeIncomplete => "incomplete escape sequence, reached end of pattern prematurely"
  | .escapeUnknown => "unrecognized escape sequence"
  | .flagNegationDangling => "dangling flag negation operator"
  | .flagDuplicate => "duplicate flag"
  | .flagNegationRepeated => "flag negation operator repeated"
  | .flagsUnclosed => "expected flag but got end of regex"
  | .flagUnknown => "unrecognized flag"
  | .nameDuplicate => "duplicate capture group name"
  | .nameEmpty => "empty capture group name"
  | .nameInvalid => "invalid capture group character"
  | .nameUnclosed => "unclosed capture group name"
  | .groupUnclosed => "unclosed group"
  | .groupUnopened => "unopened group"
  | .nestedTooDeep =>
    "exceed the maximum number of nested parentheses/brackets (" ++ Text.decimal nestLimit ++ ")"
  | .countsInvalid => "invalid repetition count range, the start must be <= the end"
  | .countEmpty => "repetition quantifier expects a valid decimal"
  | .countsUnclosed => "unclosed counted repetition"
  | .repetitionOfNothing => "repetition operator missing expression"
  | .wordPlaceUnclosed =>
    "special word boundary assertion is either unclosed or contains an invalid character"
  | .wordPlaceUnknown =>
    "unrecognized special word boundary assertion, valid choices are: " ++
      "start, end, start-half or end-half"
  | .wordPlaceOrCountsUnclosed =>
    "found either the beginning of a special word boundary or a bounded repetition on a \\b " ++
      "with an opening brace, but no closing brace"
  | .propertyInvalid => "invalid Unicode character class"
  | .backreference => "backreferences are not supported"
  | .lookAround => "look-around, including look-ahead and look-behind, is not supported"
  | .unicodeNotAllowed => "Unicode not allowed here"
  | .invalidUtf8 => "pattern can match invalid UTF-8"
  | .propertyUnknown => "Unicode property not found"
  | .propertyValueUnknown => "Unicode property value not found"
  | .unicodeClassUnknown =>
    "Unicode-aware Perl class not found (make sure the unicode-perl feature is enabled)"
  | .unicodeCaseUnknown =>
    "Unicode-aware case insensitivity matching is not available " ++
      "(make sure the unicode-case feature is enabled)"

/-- Something that is wrong with a part of a written pattern, and the earlier part that it repeats,
if it does. -/
structure Fault where
  cause : Cause
  span : Span
  earlier : Option Span
  deriving DecidableEq, Repr

def fail {α : Type} (cause : Cause) (span : Span) : Except Fault α := .error ⟨cause, span, none⟩

/-! ## Reports -/

/-- A place in a text of several lines, counted from 0. -/
private structure LinePlace where
  line : Nat
  column : Nat

private def linePlace (text : String) (place : Nat) : LinePlace :=
  let before := text.toList.take place
  ⟨before.count '\n', (before.reverse.takeWhile (· ≠ '\n')).length⟩

private def many (count : Nat) (c : Char) : String := String.ofList (List.replicate count c)

/-- The marks below the parts of a line, given by columns, when some columns are written already. -/
private def marks (written : Nat) : List (Nat × Nat) → String
  | [] => ""
  | (start, stop) :: rest =>
    let length := max 1 (stop - start)
    many (start - written) ' ' ++ many length '^' ++ marks (max written start + length) rest

/-- The columns of the parts that lie in a line. -/
private def partsOf (parts : List (LinePlace × LinePlace)) (line : Nat) : List (Nat × Nat) :=
  (parts.filter fun (start, stop) => start.line = line && stop.line = line).map
    fun (start, stop) => (start.column, stop.column)

/-- What is said about a part of several lines. -/
private def severalLines (part : LinePlace × LinePlace) : Option String :=
  let (start, stop) := part
  if start.line = stop.line then none
  else some ("on line " ++ Text.decimal (start.line + 1) ++
    " (column " ++ Text.decimal (start.column + 1) ++ ") through line " ++
    Text.decimal (stop.line + 1) ++ " (column " ++ Text.decimal stop.column ++ ")\n")

/-- The report of a fault of a pattern. The lines of a pattern of several lines are numbered. -/
def Fault.report (text : String) (fault : Fault) : String :=
  let spans := fault.earlier.toList ++ [fault.span]
  let parts := spans.map fun span => (linePlace text span.start, linePlace text span.stop)
  let hasLines := text.toList.contains '\n'
  let count := (Text.splitAtFeeds text).length
  let width := (Text.decimal count).length
  let number (i : Nat) : String :=
    if hasLines then
      let digits := Text.decimal (i + 1)
      many (width - digits.length) ' ' ++ digits ++ ": "
    else "    "
  let shown := (Text.lines text).mapIdx fun i line =>
    let columns := partsOf parts i
    number i ++ line ++ "\n" ++
      if columns.isEmpty then "" else many (number i).length ' ' ++ marks 0 columns ++ "\n"
  let divider := if hasLines then many 79 '~' ++ "\n" else ""
  let notes := if hasLines then parts.filterMap severalLines else []
  "regex parse error:\n" ++ divider ++ String.join shown ++ divider ++ String.join notes ++
    "error: " ++ fault.cause.message

end RuntimeFlag.Pattern
