import RuntimeFlag.Text.Joining
import RuntimeFlag.Text.Width.Table
/-!
# Letters that are shown as one

In some scripts two letters stand for one sign. What the text after a letter begins with tells
whether the letter makes such a sign, and then it takes no column, or gives one back.
-/
namespace RuntimeFlag.Text

/-- What can be the end of a sign. `joined` says that a joiner stands before it. -/
inductive Ligature
  | arabicAlef
  | hebrewLamed (joined : Bool)
  | khmerLetter
  | bugineseYa (joined : Bool)
  | bugineseVowelYa
  | tifinagh (joined : Bool)
  | tifinaghPair
  | lisuTone
  | turkicI (joined : Bool)
  deriving DecidableEq, Repr

def isWithin (low high : Nat) (c : Char) : Bool := low ≤ c.toNat && c.toNat ≤ high

def isZeroWidthJoiner (c : Char) : Bool := c.toNat = 0x200D

/-- The forms of the Arabic letter Alef. -/
def alefs : Ranges := .ofText
  "622-623 625 627 671-673 675 773-774 870-882"

/-- The forms of the Arabic letter Lam. -/
def lams : Ranges := .ofText
  "644 6B5-6B8 76A 8A6 8C7"

/-- The Khmer letters that may be written below another one. -/
def khmerLetters : Ranges := .ofText
  "1780-1782 1784-1787 1789-178C 178E-1793 1795-1798 179B-179D 17A0 17A2 17A7 17AB-17AC 17AF"

/-- The marks that are ignored when they cannot be shown. -/
def ignoredMarks : Ranges := .ofText
  "34F 17B4-17B5 180B-180D 180F FE00-FE0F E0100-E01EF"

def isTifinagh (c : Char) : Bool := isWithin 0x2D31 0x2D65 c || c.toNat = 0x2D6F

/-- What a letter is the end of. -/
def Ligature.ofEnd? (c : Char) : Option Ligature :=
  if alefs.has c.toNat then some .arabicAlef
  else if c.toNat = 0x5DC then some (.hebrewLamed false)
  else if khmerLetters.has c.toNat then some .khmerLetter
  else if c.toNat = 0x1A10 then some (.bugineseYa false)
  else if isTifinagh c then some (.tifinagh false)
  else if isWithin 0xA4FC 0xA4FD c then some .lisuTone
  else if c.toNat = 0x10C03 then some (.turkicI false)
  else none

/-- The end of a sign with a joiner before it. -/
def Ligature.join : Ligature → Ligature
  | .hebrewLamed _ => .hebrewLamed true
  | .bugineseYa _ => .bugineseYa true
  | .tifinagh _ => .tifinagh true
  | .turkicI _ => .turkicI true
  | ligature => ligature

/-- The end of a sign with a character before it that lets the letters join past it. -/
def Ligature.past? (ligature : Ligature) (c : Char) : Option Ligature :=
  if ligature = .arabicAlef then
    if zeroWidth.has c.toNat && joining c = .transparent then some ligature else none
  else if isZeroWidthJoiner c then some ligature.join
  else if ignoredMarks.has c.toNat then some ligature
  else none

/-- The columns that a letter takes before the end of a sign, if it makes one with it, and the sign
that may go on before it. -/
def Ligature.close? (ligature : Ligature) (c : Char) : Option (Int × Option Ligature) :=
  match ligature with
  | .arabicAlef => if lams.has c.toNat then some (0, none) else none
  | .hebrewLamed joined => if joined && c.toNat = 0x5D0 then some (0, none) else none
  | .khmerLetter => if c.toNat = 0x17D2 then some (-1, none) else none
  | .bugineseYa joined =>
    if joined && c.toNat = 0x1A17 then some (0, some .bugineseVowelYa) else none
  | .bugineseVowelYa => if c.toNat = 0x1A15 then some (0, none) else none
  | .tifinagh joined =>
    if c.toNat = 0x2D7F then some (1, some .tifinaghPair)
    else if joined && isTifinagh c then some (0, none)
    else none
  | .tifinaghPair => if isTifinagh c then some (-1, none) else none
  | .lisuTone => if isWithin 0xA4F8 0xA4FB c then some (0, none) else none
  | .turkicI joined => if joined && c.toNat = 0x10C32 then some (0, none) else none

end RuntimeFlag.Text
