import RuntimeFlag.Pattern.CharSet
/-!
# Text patterns

Regular expressions with conditions on the place where they match. Reading a character turns a
pattern into the patterns that are left to match, so a search reads its text once, however often a
part is repeated.
-/
namespace RuntimeFlag

/-- Where a place stands to a word. -/
inductive WordPlace
  /-- At one end of a word. -/
  | edge
  /-- At no end of a word. -/
  | noEdge
  | start
  | stop
  /-- Not after a character of a word. -/
  | startHalf
  /-- Not before a character of a word. -/
  | stopHalf
  deriving DecidableEq, Repr

/-- A condition on a place in a text. Lines end with a line feed, and with `feedOrReturn` also with
a carriage return or both. The words of ASCII are known; those of all letters are not. -/
inductive PlaceCondition
  | textStart
  | textEnd
  | lineStart (feedOrReturn : Bool)
  | lineEnd (feedOrReturn : Bool)
  | word (place : WordPlace) (isAscii : Bool)
  deriving DecidableEq, Repr

/-- A position in a text, between two characters or at an end. -/
structure Position where
  before : Option Char
  after : Option Char

private def isWordChar (c : Option Char) : Bool := c.any CharSet.word.has

def WordPlace.holds (place : Position) : WordPlace → Bool
  | .edge => isWordChar place.before != isWordChar place.after
  | .noEdge => isWordChar place.before == isWordChar place.after
  | .start => !isWordChar place.before && isWordChar place.after
  | .stop => isWordChar place.before && !isWordChar place.after
  | .startHalf => !isWordChar place.before
  | .stopHalf => !isWordChar place.after

def PlaceCondition.holds (place : Position) : PlaceCondition → Bool
  | .textStart => place.before.isNone
  | .textEnd => place.after.isNone
  | .lineStart false => place.before.all (· = '\n')
  | .lineStart true =>
    place.before.all (· = '\n') || (place.before = some '\r' && place.after ≠ some '\n')
  | .lineEnd false => place.after.all (· = '\n')
  | .lineEnd true =>
    place.after.all (· = '\r') || (place.after = some '\n' && place.before ≠ some '\r')
  | .word wordPlace _ => wordPlace.holds place

inductive Pattern
  | empty
  | char (set : CharSet)
  | place (condition : PlaceCondition)
  | sequence (first second : Pattern)
  | either (left right : Pattern)
  /-- A pattern a number of times: at least so often, and at most so often if there is a limit. -/
  | repeated (body : Pattern) (least : Nat) (greatest : Option Nat)
  /-- A part whose match is kept apart. -/
  | group (body : Pattern)
  deriving DecidableEq, Repr

namespace Pattern

/-- Whether a pattern matches without a character at a place. -/
def matchesNothing (place : Position) : Pattern → Bool
  | .empty => true
  | .char _ => false
  | .place condition => condition.holds place
  | .sequence first second => first.matchesNothing place && second.matchesNothing place
  | .either left right => left.matchesNothing place || right.matchesNothing place
  | .repeated body least _ => least = 0 || body.matchesNothing place
  | .group body => body.matchesNothing place

/-- A pattern and another one after it. -/
def followedBy (first second : Pattern) : Pattern :=
  if first = .empty then second else .sequence first second

/-- What is left to match of a pattern when the character `c` is read at a place. -/
def afterChar (place : Position) (c : Char) : Pattern → List Pattern
  | .empty | .place _ => []
  | .char set => if set.has c then [.empty] else []
  | .sequence first second =>
    (first.afterChar place c).map (·.followedBy second) ++
      if first.matchesNothing place then second.afterChar place c else []
  | .either left right => left.afterChar place c ++ right.afterChar place c
  | .repeated body least greatest =>
    if greatest = some 0 then []
    else
      let least := if body.matchesNothing place then 0 else least - 1
      (body.afterChar place c).map (·.followedBy (.repeated body least (greatest.map (· - 1))))
  | .group body => body.afterChar place c

/-- Whether the pattern starts to match somewhere in a text, or what is left of it goes on to. -/
private def search (pattern : Pattern) (left : List Pattern) (before : Option Char) :
    List Char → Bool
  | [] => (pattern :: left).any (·.matchesNothing ⟨before, none⟩)
  | c :: rest =>
    let place : Position := ⟨before, some c⟩
    let here := pattern :: left
    here.any (·.matchesNothing place) ||
      search pattern (here.flatMap (·.afterChar place c)).eraseDups (some c) rest

/-- Whether a pattern matches somewhere in a text. -/
def isFoundIn (pattern : Pattern) (text : String) : Bool :=
  pattern.search [] none text.toList

end Pattern

end RuntimeFlag
