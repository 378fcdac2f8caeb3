import RuntimeFlag.Text.Utf8
/-!
# Base64 for URLs

Three bytes are four characters of six bits each, from the letters, the digits, `-` and `_`. One or
two bytes at the end are two or three characters, whose unused bits are zero. There is no padding.
-/
namespace RuntimeFlag.Base64Url

/-- The six bits of a character. -/
def value? (c : Char) : Option Nat :=
  if 'A' ≤ c && c ≤ 'Z' then some (c.toNat - 65)
  else if 'a' ≤ c && c ≤ 'z' then some (c.toNat - 71)
  else if '0' ≤ c && c ≤ '9' then some (c.toNat + 4)
  else if c = '-' then some 62
  else if c = '_' then some 63
  else none

def byte (n : Nat) : UInt8 := UInt8.ofNat n

/-- The bytes that groups of six bits stand for. -/
def ofSextets : List Nat → Option Bytes
  | [] => some []
  | [_] => none
  | [a, b] => if b % 16 = 0 then some [byte (a * 4 + b / 16)] else none
  | [a, b, c] =>
    if c % 4 = 0 then some [byte (a * 4 + b / 16), byte (b % 16 * 16 + c / 4)] else none
  | a :: b :: c :: d :: rest => do
    let bytes ← ofSextets rest
    pure (byte (a * 4 + b / 16) :: byte (b % 16 * 16 + c / 4) :: byte (c % 4 * 64 + d) :: bytes)

/-- The bytes that a text stands for. -/
def decode? (cs : List Char) : Option Bytes :=
  (cs.mapM value?).bind ofSextets

end RuntimeFlag.Base64Url
