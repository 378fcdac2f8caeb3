import RuntimeFlag.Text.Width.Ligature
/-!
# Pictures made of several characters

A picture may be followed by a tone of skin or by a joiner and another picture; two letters of a
region make a flag, and so does a black flag with tags. What the text after a character begins with
tells which part of such a picture the character is.
-/
namespace RuntimeFlag.Text

/-- What stands between a character and a picture that it may be joined to. -/
inductive Joined
  | nothing
  | keycap
  | indicator
  | indicators (isEven : Bool)
  | tagLetters (count : Nat)
  | tagDigits (count : Nat)
  deriving DecidableEq, Repr

/-- What the text after a character begins with, as far as it belongs to a picture. -/
inductive Picture
  /-- A picture, or the first part of one. -/
  | whole
  | tone
  | indicator
  | indicators
  /-- A joiner and a picture, and what stands before them. -/
  | joined (between : Joined)
  deriving DecidableEq, Repr

/-- Whether a character is one of the letters that name a region. -/
def isIndicator (c : Char) : Bool := 0x1F1E6 ≤ c.toNat && c.toNat ≤ 0x1F1FF

/-- Whether a character is a tone of skin. -/
def isTone (c : Char) : Bool := 0x1F3FB ≤ c.toNat && c.toNat ≤ 0x1F3FF

private def isTagLetter (c : Char) : Bool := 0xE0061 ≤ c.toNat && c.toNat ≤ 0xE007A

private def isTagDigit (c : Char) : Bool := 0xE0030 ≤ c.toNat && c.toNat ≤ 0xE0039

private def isTagEnd (c : Char) : Bool := c.toNat = 0xE007F

private def isBlackFlag (c : Char) : Bool := c.toNat = 0x1F3F4

private def isKeycap (c : Char) : Bool := c.toNat = 0x20E3

/-- The part of a picture that a character is, whatever stands after it. -/
def Picture.ofStart? (c : Char) : Option Picture :=
  if pictures.has c.toNat then some .whole
  else if isTone c then some .tone
  else if isIndicator c then some .indicator
  else none

/-- The columns of a character before a joiner and a picture, and what it begins there. -/
def Joined.extend? (between : Joined) (c : Char) : Option (Int × Picture) :=
  match between with
  | .nothing =>
    if isKeycap c then some (0, .joined .keycap)
    else if isIndicator c then some (1, .joined .indicator)
    else if isTone c then some (0, .tone)
    else if isTagEnd c then some (0, .joined (.tagLetters 0))
    else if pictures.has c.toNat then some (0, .whole)
    else none
  | .keycap => none
  | .indicator => if isIndicator c then some (-1, .joined (.indicators true)) else none
  | .indicators isEven =>
    if isIndicator c then
      some (if isEven then 3 else -1, .joined (.indicators (!isEven)))
    else if isZeroWidthJoiner c then some (0, .joined .nothing)
    else none
  | .tagLetters count =>
    if isTagLetter c && count < 6 then some (0, .joined (.tagLetters (count + 1)))
    else if isTagDigit c && count < 5 then some (0, .joined (.tagDigits 1))
    else if isBlackFlag c && 3 ≤ count then some (0, .whole)
    else none
  | .tagDigits count =>
    if isTagDigit c && count < 3 then some (0, .joined (.tagDigits (count + 1)))
    else if isBlackFlag c && count = 3 then some (0, .whole)
    else none

/-- The columns of a character before a part of a picture, and what it begins there. -/
def Picture.extend? (picture : Picture) (c : Char) : Option (Int × Picture) :=
  match picture with
  | .whole => if isZeroWidthJoiner c then some (0, .joined .nothing) else none
  | .tone =>
    if people.has c.toNat then some (0, .whole)
    else if isZeroWidthJoiner c then some (0, .joined .nothing)
    else none
  | .indicator => if isIndicator c then some (1, .indicators) else none
  | .indicators =>
    if isIndicator c then some (1, .indicators)
    else if isZeroWidthJoiner c then some (0, .joined .nothing)
    else none
  | .joined between => between.extend? c

end RuntimeFlag.Text
