import RuntimeFlag.Text.CombiningClass
import RuntimeFlag.Text.Composed
import RuntimeFlag.Text.Direction
import RuntimeFlag.Text.Joining
import RuntimeFlag.Url.Domain.Mapping
import RuntimeFlag.Url.Punycode
/-!
# Labels of a domain

A label beyond ASCII is written in ASCII after `xn--`. What it stands for has to be in the form that
domains are compared in, and it has to be readable: it starts with no mark, its joiners show, and it
runs in one direction.
-/
namespace RuntimeFlag.Domain

open Text (Direction)

/-- A label in ASCII and the text that it stands for. -/
structure Label where
  written : List Char
  text : List Char
  deriving DecidableEq, Repr

/-- The form of a text in which alike domains are equal, if all its characters can stand in one. -/
def folded? (cs : List Char) : Option (List Char) :=
  (cs.mapM characters?).map fun parts => Text.composed parts.flatten

private def isAscii (cs : List Char) : Bool := cs.all (·.toNat < 0x80)

/-- The number of characters that a label beyond ASCII may have. -/
def textLimit : Nat := 1000

/-- The number of characters that may follow the `xn--` of a label. -/
def codeLimit : Nat := 2000

/-- The text that a label stands for, from what follows its `xn--`. -/
def Label.decode? (code : List Char) : Option (List Char) := do
  if code.isEmpty || code.getLast? = some '-' || codeLimit < code.length then none
  else
    let text ← Punycode.decode? code
    if isAscii text || folded? text ≠ some text then none else pure text

/-- A label in the form in which labels are compared. -/
def Label.ofText? (text : List Char) : Option Label :=
  match text with
  | 'x' :: 'n' :: '-' :: '-' :: code =>
    if isAscii code then (Label.decode? code).map fun inner => ⟨text, inner⟩ else none
  | text =>
    if isAscii text then some ⟨text, text⟩
    else if textLimit < text.length then none
    else some ⟨"xn--".toList ++ Punycode.encode text, text⟩

/-! ## Joiners -/

/-- The sign that parts two letters which would join. -/
private def nonJoiner : Char := Char.ofNat 0x200C

/-- The sign that joins two letters which would not. -/
private def joiner : Char := Char.ofNat 0x200D

/-- How the nearest character joins that does not let others join past it. -/
private def nearest (cs : List Char) : Text.Joining :=
  ((cs.map Text.joining).find? (· ≠ .transparent)).getD .none

/-- Whether a sign for joining shows between the text before it, backwards, and the text after it:
after a virama, or as a non-joiner between letters that would join. -/
private def shows (before : List Char) (sign : Char) (after : List Char) : Bool :=
  match before with
  | [] => false
  | c :: _ =>
    Text.combiningClass c.toNat = Text.virama ||
      (sign = nonJoiner && [.after, .dual].contains (nearest before) &&
        [.before, .dual].contains (nearest after))

/-- Whether every sign for joining shows that stands in a text after another one, which is given
backwards. -/
private def joinersShow (before : List Char) : List Char → Bool
  | [] => true
  | c :: after =>
    ((c ≠ nonJoiner && c ≠ joiner) || shows before c after) && joinersShow (c :: before) after

/-- Whether a label starts with no mark and its joiners show. -/
def Label.isReadable (label : Label) : Bool :=
  label.text.head?.all (fun c => !Text.isMark c.toNat) && joinersShow [] label.text

/-! ## Directions -/

/-- Whether a label has characters that run from right to left. -/
def Label.hasRight (label : Label) : Bool :=
  label.text.any fun c => [.right, .arabicNumber].contains (Text.direction c)

/-- Whether characters of these directions run one way: those of the first one throughout, with an
end that tells where they stop. From right to left they have digits of one kind. -/
def runsOneWay (directions : List Direction) : Bool :=
  let last := directions.reverse.find? (· ≠ .mark)
  match directions with
  | [] => true
  | .left :: _ =>
    directions.all (fun d => d ≠ .right && d ≠ .arabicNumber) &&
      [some .left, some .number].contains last
  | .right :: _ =>
    directions.all (· ≠ .left) && last ≠ some .neutral &&
      !(directions.contains .number && directions.contains .arabicNumber)
  | _ => false

def Label.runsOneWay (label : Label) : Bool :=
  Domain.runsOneWay (label.text.map Text.direction)

end RuntimeFlag.Domain
