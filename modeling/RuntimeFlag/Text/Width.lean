import RuntimeFlag.Text.Width.Picture
/-!
# Display width

How many columns of a terminal a line takes. The columns of a character depend on what stands after
it, so a line is measured from its end: each character adds its columns and leaves what the text
from there on begins with.
-/
namespace RuntimeFlag.Text

/-- What a selector asks of the character before it. -/
inductive Selector
  | picture
  | text
  | fullWidth
  deriving DecidableEq, Repr

/-- What the text after a character begins with, selectors aside. -/
inductive Start
  | other
  | lineFeed
  | ligature (sign : Ligature)
  | picture (part : Picture)
  /-- The Kirat Rai vowel sign E. -/
  | vowelE
  /-- The Kirat Rai vowel sign AI. -/
  | vowelAi
  deriving DecidableEq, Repr

/-- What the text after a character begins with. -/
structure After where
  selector : Option Selector
  start : Start
  deriving DecidableEq, Repr

/-- The end of a line. -/
def After.nothing : After := ⟨none, .other⟩

def Selector.of? (c : Char) : Option Selector :=
  if c.toNat = 0xFE0F then some .picture
  else if c.toNat = 0xFE0E then some .text
  else if c.toNat = 0xFE01 then some .fullWidth
  else none

/-- What still bears on a character that a selector parts from it. -/
def Start.past (start : Start) (selector : Selector) : Start :=
  match start, selector with
  | .ligature _, _ => start
  | .picture (.joined .nothing), .picture => start
  | .picture (.joined .keycap), .picture => start
  | _, _ => .other

/-- The columns of a character, whatever stands after it. -/
def charWidth (c : Char) : Nat :=
  if c.toNat ≤ 0xA0 then 1
  else if zeroWidth.has c.toNat then 0
  else if c.toNat = 0x17D8 then 3
  else if doubleWidth.has c.toNat then 2
  else 1

/-- What a text begins with that begins with this character. -/
def Start.of (c : Char) : Start :=
  if c = '\n' then .lineFeed
  else if c.toNat = 0x16D67 then .vowelE
  else if c.toNat = 0x16D68 then .vowelAi
  else
    match Ligature.ofEnd? c, Picture.ofStart? c with
    | some sign, _ => .ligature sign
    | none, some part => .picture part
    | none, none => .other

/-- The columns of a character that goes together with what stands after it. -/
def Start.extend? (start : Start) (c : Char) : Option (Int × Start) :=
  match start with
  | .other => none
  | .lineFeed => if c = '\r' then some (0, .other) else none
  | .ligature sign =>
    match sign.past? c with
    | some sign => some (0, .ligature sign)
    | none => (sign.close? c).map fun (n, rest) => (n, (rest.map .ligature).getD .other)
  | .picture part => (part.extend? c).map fun (n, part) => (n, .picture part)
  | .vowelE =>
    match c.toNat with
    | 0x16D63 => some (0, .other)
    | 0x16D67 => some (0, .vowelAi)
    | 0x16D68 => some (1, .vowelE)
    | 0x16D69 => some (0, .other)
    | _ => none
  | .vowelAi => if c.toNat = 0x16D63 then some (0, .other) else none

/-- The columns of a character before a text that begins in some way. -/
def Start.step (start : Start) (c : Char) : Int × After :=
  match Selector.of? c with
  | some selector => (0, ⟨some selector, start.past selector⟩)
  | none =>
    match start.extend? c with
    | some (n, start) => (n, ⟨none, start⟩)
    | none => (charWidth c, ⟨none, .of c⟩)

private def isCurlyQuote (c : Char) : Bool := "‘’“”".toList.contains c

/-- What a character becomes by the selector after it: the columns that it takes then, and what the
text from it on begins with. -/
def Selector.select? (selector : Selector) (start : Start) (c : Char) : Option (Int × Start) :=
  match selector with
  | .picture =>
    if picturesOnDemand.has c.toNat then
      some (if start matches .picture (.joined _) then 0 else 2, .picture .whole)
    else none
  | .text => if textsOnDemand.has c.toNat then some (1, .other) else none
  | .fullWidth => if isCurlyQuote c then some (2, .other) else none

/-- What bears on a character after which a selector asks for something that it cannot be. -/
def Selector.ignored (selector : Selector) (start : Start) : Start :=
  match selector, start with
  | .picture, .picture _ => .other
  | _, start => start

/-- The columns of a character before a text, and what the text from it on begins with. -/
def After.step (after : After) (c : Char) : Int × After :=
  match after.selector with
  | none => after.start.step c
  | some selector =>
    match selector.select? after.start c with
    | some (n, start) => (n, ⟨none, start⟩)
    | none => (selector.ignored after.start).step c

/-- The columns of a text and what it begins with. -/
def measure (cs : List Char) : Int × After :=
  cs.foldr (fun c (n, after) => let (m, after) := after.step c; (m + n, after)) (0, .nothing)

def lineWidth (line : String) : Nat := (measure line.toList).1.toNat

end RuntimeFlag.Text
