import RuntimeFlag.Pattern.Basic
import RuntimeFlag.Pattern.Fault
/-!
# Written patterns

A pattern as it is written: its parts, and where each of them stands.
-/
namespace RuntimeFlag.Pattern

/-- A way in which a part of a pattern is taken. -/
inductive Flag
  | anyCase
  | multiLine
  | dotIsAll
  | shortest
  | unicode
  | feedOrReturn
  | skipBlanks
  deriving DecidableEq, Repr

abbrev FlagChanges := List (Flag × Bool)

def FlagChanges.of? (changes : FlagChanges) (flag : Flag) : Option Bool :=
  (changes.find? (·.1 = flag)).map (·.2)

/-- A written character; `isByte` says that it is written as a byte in two hexadecimal digits. -/
structure Literal where
  span : Span
  char : Char
  isByte : Bool
  deriving DecidableEq, Repr

/-- A class of characters that a letter names. -/
inductive LetterClass
  | digit
  | space
  | word
  deriving DecidableEq, Repr

inductive SetOperation
  | intersection
  | difference
  | symmetricDifference
  deriving DecidableEq, Repr

inductive WrittenSet
  | nothing (span : Span)
  | literal (literal : Literal)
  | range (span : Span) (low high : Literal)
  | named (span : Span) (set : CharSet) (isNegated : Bool)
  | letterClass (span : Span) (letter : LetterClass) (isNegated : Bool)
  | property (span : Span) (name : List Char)
  | bracketed (span : Span) (isNegated : Bool) (set : WrittenSet)
  | union (span : Span) (items : List WrittenSet)
  | operation (span : Span) (operation : SetOperation) (left right : WrittenSet)
  deriving Repr

def WrittenSet.span : WrittenSet → Span
  | .literal l => l.span
  | .nothing s | .range s _ _ | .named s _ _ | .letterClass s _ _ | .property s _
  | .bracketed s _ _ | .union s _ | .operation s _ _ _ => s

inductive WrittenPlace
  | lineStart
  | lineEnd
  | textStart
  | textEnd
  | word (place : WordPlace)
  deriving DecidableEq, Repr

inductive Written
  | nothing (span : Span)
  /-- Flags for the rest of the group. -/
  | flags (span : Span) (changes : FlagChanges)
  | literal (literal : Literal)
  | dot (span : Span)
  | place (span : Span) (place : WrittenPlace)
  | letterClass (span : Span) (letter : LetterClass) (isNegated : Bool)
  | property (span : Span) (name : List Char)
  | bracketed (span : Span) (isNegated : Bool) (set : WrittenSet)
  | repeated (span : Span) (body : Written) (least : Nat) (greatest : Option Nat)
  | group (span : Span) (isKept : Bool) (changes : FlagChanges) (body : Written)
  | sequence (span : Span) (parts : List Written)
  | alternatives (span : Span) (branches : List Written)
  deriving Repr

def Written.span : Written → Span
  | .literal l => l.span
  | .nothing s | .flags s _ | .dot s | .place s _ | .letterClass s _ _ | .property s _
  | .bracketed s _ _ | .repeated s _ _ _ | .group s _ _ _ | .sequence s _ | .alternatives s _ => s

/-! ## Nesting -/

mutual

/-- The first part of a set that is nested too deep, when its own depth is given. -/
def WrittenSet.tooDeep? (depth : Nat) : WrittenSet → Option Span
  | .nothing _ | .literal _ | .range _ _ _ | .named _ _ _ | .letterClass _ _ _ | .property _ _ =>
    none
  | .bracketed span _ set => if nestLimit ≤ depth then some span else set.tooDeep? (depth + 1)
  | .union span items =>
    if nestLimit ≤ depth then some span else WrittenSet.anyTooDeep? (depth + 1) items
  | .operation span _ left right =>
    if nestLimit ≤ depth then some span
    else left.tooDeep? (depth + 1) <|> right.tooDeep? (depth + 1)

def WrittenSet.anyTooDeep? (depth : Nat) : List WrittenSet → Option Span
  | [] => none
  | set :: rest => set.tooDeep? depth <|> WrittenSet.anyTooDeep? depth rest

end

mutual

/-- The first part of a pattern that is nested too deep, when its own depth is given. -/
def Written.tooDeep? (depth : Nat) : Written → Option Span
  | .nothing _ | .flags _ _ | .literal _ | .dot _ | .place _ _ | .letterClass _ _ _
  | .property _ _ => none
  | .bracketed span _ set => if nestLimit ≤ depth then some span else set.tooDeep? (depth + 1)
  | .repeated span body _ _ | .group span _ _ body =>
    if nestLimit ≤ depth then some span else body.tooDeep? (depth + 1)
  | .sequence span parts | .alternatives span parts =>
    if nestLimit ≤ depth then some span else Written.anyTooDeep? (depth + 1) parts

def Written.anyTooDeep? (depth : Nat) : List Written → Option Span
  | [] => none
  | part :: rest => part.tooDeep? depth <|> Written.anyTooDeep? depth rest

end

end RuntimeFlag.Pattern
