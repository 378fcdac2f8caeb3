import RuntimeFlag.Pattern.Fault
import RuntimeFlag.Text.Blank
/-!
# Reading a written pattern

A place in a written pattern and what stands from there on. Where blanks are skipped, a comment from
a number sign to the end of its line is a blank too.
-/
namespace RuntimeFlag.Pattern

/-- A place in a written pattern and what stands from there on. -/
structure Cursor where
  place : Nat
  rest : List Char
  skipsBlanks : Bool

namespace Cursor

def char? (cursor : Cursor) : Option Char := cursor.rest.head?

def isAtEnd (cursor : Cursor) : Bool := cursor.rest.isEmpty

def isAt (cursor : Cursor) (c : Char) : Bool := cursor.char? = some c

def isAtText (cursor : Cursor) (text : String) : Bool := text.toList.isPrefixOf cursor.rest

/-- The part from an earlier place up to here. -/
def since (cursor : Cursor) (start : Nat) : Span := ⟨start, cursor.place⟩

/-- The part without a character at the place. -/
def here (cursor : Cursor) : Span := ⟨cursor.place, cursor.place⟩

/-- The character at the place as a part. -/
def charSpan (cursor : Cursor) : Span := ⟨cursor.place, cursor.place + 1⟩

def pass (cursor : Cursor) (count : Nat) : Cursor :=
  let count := min count cursor.rest.length
  { cursor with place := cursor.place + count, rest := cursor.rest.drop count }

/-- Passes blanks and comments. -/
private def passBlanks (inComment : Bool) (place : Nat) : List Char → Nat × List Char
  | [] => (place, [])
  | c :: rest =>
    if inComment then passBlanks (c ≠ '\n') (place + 1) rest
    else if Text.isBlank c then passBlanks false (place + 1) rest
    else if c = '#' then passBlanks true (place + 1) rest
    else (place, c :: rest)

/-- Passes what is skipped between the parts of a pattern. -/
def skip (cursor : Cursor) : Cursor :=
  if cursor.skipsBlanks then
    let (place, rest) := passBlanks false cursor.place cursor.rest
    { cursor with place := place, rest := rest }
  else cursor

/-- Passes a character and what is skipped after it. -/
def advance (cursor : Cursor) : Cursor := (cursor.pass 1).skip

/-- Passes characters of a class, at most so many, with what is skipped between them, and gives the
place of each. -/
private def collectUpTo (isMember : Char → Bool) :
    Nat → Cursor → List (Char × Span) × Cursor
  | 0, cursor => ([], cursor)
  | count + 1, cursor =>
    match cursor.char? with
    | some c =>
      if isMember c then
        let (found, last) := collectUpTo isMember count cursor.advance
        ((c, cursor.charSpan) :: found, last)
      else ([], cursor)
    | none => ([], cursor)

/-- Passes all characters of a class that stand here. -/
def collect (cursor : Cursor) (isMember : Char → Bool) : List (Char × Span) × Cursor :=
  collectUpTo isMember cursor.rest.length cursor

/-- The character after the one at the place, past blanks and a number sign where blanks are
skipped. -/
def peek? (cursor : Cursor) : Option Char :=
  let rest := cursor.rest.drop 1
  if cursor.skipsBlanks then
    let past := rest.dropWhile Text.isBlank
    let past := if past.head? = some '#' then past.tail.dropWhile Text.isBlank else past
    past.head? <|> rest.head?
  else rest.head?

end Cursor

end RuntimeFlag.Pattern
