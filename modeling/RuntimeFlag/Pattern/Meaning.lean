import RuntimeFlag.Pattern.Written
import RuntimeFlag.Text.Blank
/-!
# Meanings of written patterns

The pattern that a written one stands for. Texts are taken as characters, or as bytes where the flag
for Unicode is off; the part of a pattern that takes bytes must not match a piece of a character.
The classes and cases of all letters are not known, those of ASCII are.
-/
namespace RuntimeFlag.Pattern

/-- How the parts of a pattern are taken. -/
structure Mode where
  anyCase : Bool
  multiLine : Bool
  dotIsAll : Bool
  isUnicode : Bool
  feedOrReturn : Bool

def Mode.default : Mode := ⟨false, false, false, true, false⟩

def Mode.with (mode : Mode) (changes : FlagChanges) : Mode where
  anyCase := (changes.of? .anyCase).getD mode.anyCase
  multiLine := (changes.of? .multiLine).getD mode.multiLine
  dotIsAll := (changes.of? .dotIsAll).getD mode.dotIsAll
  isUnicode := (changes.of? .unicode).getD mode.isUnicode
  feedOrReturn := (changes.of? .feedOrReturn).getD mode.feedOrReturn

/-! ## Sets -/

def LetterClass.set : LetterClass → CharSet
  | .digit => .digit
  | .space => .space
  | .word => .word

/-- The set in both cases, if the mode asks for it. -/
private def Mode.cased (mode : Mode) (span : Span) (set : CharSet) : Except Fault CharSet :=
  if !mode.anyCase || set.isEmpty then pure set
  else if mode.isUnicode then fail .unicodeCaseUnknown span
  else pure set.anyCase

/-- The set or its complement, which has bytes that are no characters where bytes are taken. -/
private def Mode.negated (mode : Mode) (span : Span) (isNegated : Bool) (set : CharSet) :
    Except Fault CharSet :=
  if !isNegated then pure set
  else if mode.isUnicode then pure set.complement
  else fail .invalidUtf8 span

private def Mode.char (mode : Mode) (literal : Literal) : Except Fault Char :=
  if !mode.isUnicode && literal.isByte && 0x80 ≤ literal.char.toNat then
    fail .invalidUtf8 literal.span
  else pure literal.char

private def Mode.member (mode : Mode) (literal : Literal) : Except Fault Char := do
  let c ← mode.char literal
  if !mode.isUnicode && 0x80 ≤ c.toNat then fail .unicodeNotAllowed literal.span else pure c

private def Mode.letterClass (mode : Mode) (span : Span) (letter : LetterClass)
    (isNegated : Bool) : Except Fault CharSet :=
  if mode.isUnicode then fail .unicodeClassUnknown span
  else mode.negated span isNegated letter.set

/-- The name of a property without what does not tell names apart. -/
private def plainName (name : List Char) : String :=
  let start := name.take 2
  let rest := if start.map Text.lowerAscii = ['i', 's'] then name.drop 2 else name
  let isPart (c : Char) : Bool := c.toNat < 0x80 && c ≠ ' ' && c ≠ '_' && c ≠ '-'
  String.ofList ((rest.filter isPart).map Text.lowerAscii)

/-- No property is known; of three names it is known that they are values of one. -/
private def Mode.property {α : Type} (mode : Mode) (span : Span) (name : List Char) :
    Except Fault α :=
  if !mode.isUnicode then fail .unicodeNotAllowed span
  else if ["cf", "sc", "lc"].contains (plainName name) then fail .propertyValueUnknown span
  else fail .propertyUnknown span

def SetOperation.apply (left right : CharSet) : SetOperation → CharSet
  | .intersection => left.intersection right
  | .difference => left.difference right
  | .symmetricDifference => left.symmetricDifference right

mutual

def WrittenSet.toSet (mode : Mode) : WrittenSet → Except Fault CharSet
  | .nothing _ => pure .empty
  | .literal l => (mode.member l).map .one
  | .range _ low high => do
    let first ← mode.member low
    let last ← mode.member high
    pure (.range first last)
  | .named span set isNegated => do mode.negated span isNegated (← mode.cased span set)
  | .letterClass span letter isNegated => mode.letterClass span letter isNegated
  | .property span name => mode.property span name
  | .bracketed span isNegated inner => do
    mode.negated span isNegated (← mode.cased span (← inner.toSet mode))
  | .union _ items => WrittenSet.unionOf mode items
  | .operation _ kind left right => do
    let first ← left.toSet mode
    let second ← right.toSet mode
    let second ← mode.cased right.span second
    let first ← mode.cased left.span first
    pure (kind.apply first second)

def WrittenSet.unionOf (mode : Mode) : List WrittenSet → Except Fault CharSet
  | [] => pure .empty
  | item :: rest => do
    let first ← item.toSet mode
    let others ← WrittenSet.unionOf mode rest
    pure (first.union others)

end

/-! ## Patterns -/

private def Mode.literal (mode : Mode) (literal : Literal) : Except Fault Pattern := do
  let set ← mode.cased literal.span (.one (← mode.char literal))
  pure (.char set)

/-- The pattern of a dot, which stands for any character of a line, or for any at all. -/
private def Mode.dot (mode : Mode) (span : Span) : Except Fault Pattern :=
  if !mode.isUnicode then fail .invalidUtf8 span
  else
    let ends := if mode.dotIsAll then "" else if mode.feedOrReturn then "\n\r" else "\n"
    pure (.char (CharSet.ofText ends).complement)

private def Mode.condition (mode : Mode) : WrittenPlace → PlaceCondition
  | .lineStart => if mode.multiLine then .lineStart mode.feedOrReturn else .textStart
  | .lineEnd => if mode.multiLine then .lineEnd mode.feedOrReturn else .textEnd
  | .textStart => .textStart
  | .textEnd => .textEnd
  | .word kind => .word kind (!mode.isUnicode)

/-- Whether a pattern never takes a character. -/
def takesNothing : Pattern → Bool
  | .empty | .place _ => true
  | .char _ => false
  | .sequence first second => first.takesNothing && second.takesNothing
  | .either left right => left.takesNothing && right.takesNothing
  | .repeated body _ _ => body.takesNothing
  | .group body => body.takesNothing

/-- A pattern a number of times. What takes no character is not repeated, and what is repeated no
time at all is nothing. -/
def times (body : Pattern) (least : Nat) (greatest : Option Nat) : Pattern :=
  let (least, greatest) :=
    if body.takesNothing then (min least 1, some (min (greatest.getD 1) 1)) else (least, greatest)
  if greatest = some 0 then .empty
  else if least = 1 ∧ greatest = some 1 then body
  else .repeated body least greatest

/-- The pattern of several ones of which one has to match. Single characters side by side are one set,
and so are sets of several characters. -/
def oneOf (branches : List Pattern) : Pattern :=
  let set? (isSingle : Bool) : Pattern → Option CharSet
    | .char set => if set.isSingle = isSingle then some set else none
    | _ => none
  match branches.mapM (set? true) <|> branches.mapM (set? false), branches with
  | some sets, _ => .char (sets.foldr .union .empty)
  | none, [] => .empty
  | none, first :: rest => rest.foldl .either first

mutual

/-- The pattern that a written one stands for, and the mode after it. -/
def Written.toPattern (mode : Mode) : Written → Except Fault (Pattern × Mode)
  | .nothing _ => pure (.empty, mode)
  | .flags _ changes => pure (.empty, mode.with changes)
  | .literal l => (mode.literal l).map (·, mode)
  | .dot span => (mode.dot span).map (·, mode)
  | .place _ kind => pure (.place (mode.condition kind), mode)
  | .letterClass span letter isNegated =>
    (mode.letterClass span letter isNegated).map fun set => (.char set, mode)
  | .property span name => mode.property span name
  | .bracketed span isNegated inner => do
    let set ← mode.cased span (← inner.toSet mode)
    pure (.char (← mode.negated span isNegated set), mode)
  | .repeated _ body least greatest =>
    (body.toPattern mode).map fun (inner, mode) => (inner.times least greatest, mode)
  | .group _ isKept changes body =>
    (body.toPattern (mode.with changes)).map fun (inner, _) =>
      (if isKept then .group inner else inner, mode)
  | .sequence _ parts => Written.sequenceOf mode parts
  | .alternatives _ branches =>
    (Written.branchesOf mode branches).map fun (inner, mode) => (oneOf inner, mode)

def Written.sequenceOf (mode : Mode) : List Written → Except Fault (Pattern × Mode)
  | [] => pure (.empty, mode)
  | part :: rest => do
    let (first, mode) ← part.toPattern mode
    let (others, mode) ← Written.sequenceOf mode rest
    pure (if others = .empty then first else first.followedBy others, mode)

def Written.branchesOf (mode : Mode) : List Written → Except Fault (List Pattern × Mode)
  | [] => pure ([], mode)
  | branch :: rest => do
    let (first, mode) ← branch.toPattern mode
    let (others, mode) ← Written.branchesOf mode rest
    pure (first :: others, mode)

end

end RuntimeFlag.Pattern
