import RuntimeFlag.Text.Hex
import RuntimeFlag.Text.Utf8
/-!
# Percent encoding

A byte is written as `%` and two upper-case hexadecimal digits. Each part of a URL has its own set
of characters that are written so; bytes beyond ASCII always are.
-/
namespace RuntimeFlag.Percent

def encodeByte (b : UInt8) : List Char :=
  ['%', Text.upperHexDigit (b.toNat / 16), Text.upperHexDigit (b.toNat % 16)]

/-- Whether a character is a control or not in ASCII. -/
def isControl (c : Char) : Bool := c.toNat < 0x20 || 0x7F ≤ c.toNat

def inFragment (c : Char) : Bool := isControl c || " \"<>`".toList.contains c

def inPath (c : Char) : Bool := inFragment c || "#?\x7b\x7d".toList.contains c

def inUserInfo (c : Char) : Bool := inPath c || "/:;=@[\\]^|".toList.contains c

def inQuery (c : Char) : Bool := isControl c || " \"#<>".toList.contains c

/-- What is encoded in the query of a special URL. -/
def inSpecialQuery (c : Char) : Bool := inQuery c || c = '\''

def encodeChar (isEncoded : Char → Bool) (c : Char) : List Char :=
  if isEncoded c then (Utf8.encodeChar c).flatMap encodeByte else [c]

def encode (isEncoded : Char → Bool) (cs : List Char) : List Char :=
  cs.flatMap (encodeChar isEncoded)

/-- The bytes that a written form stands for; a `%` without two digits stands for itself. -/
def decode : List Char → Bytes
  | [] => []
  | '%' :: high :: low :: rest =>
    match Text.hexValue? high, Text.hexValue? low with
    | some h, some l => UInt8.ofNat (h * 16 + l) :: decode rest
    | _, _ => 0x25 :: decode (high :: low :: rest)
  | c :: rest => Utf8.encodeChar c ++ decode rest

end RuntimeFlag.Percent
