/-!
# UTF-8

Characters as bytes and back. `decode?` accepts exactly the well-formed sequences; `decodeLossy`
puts U+FFFD for each longest ill-formed start of a character.
-/
namespace RuntimeFlag

abbrev Bytes := List UInt8

namespace Utf8

def encodeChar (c : Char) : Bytes :=
  let n := c.toNat
  let byte (k : Nat) : UInt8 := UInt8.ofNat k
  if n < 0x80 then [byte n]
  else if n < 0x800 then [byte (0xC0 + n / 64), byte (0x80 + n % 64)]
  else if n < 0x10000 then
    [byte (0xE0 + n / 4096), byte (0x80 + n / 64 % 64), byte (0x80 + n % 64)]
  else
    [byte (0xF0 + n / 262144), byte (0x80 + n / 4096 % 64), byte (0x80 + n / 64 % 64),
      byte (0x80 + n % 64)]

def encodeChars (cs : List Char) : Bytes :=
  cs.flatMap encodeChar

def encode (s : String) : Bytes :=
  encodeChars s.toList

/-- What the first byte of a longer character promises: the bits it holds, the range of the next
byte, and how many bytes follow. -/
def lead (n : Nat) : Option (Nat × Nat × Nat × Nat) :=
  if 0xC2 ≤ n && n ≤ 0xDF then some (n - 0xC0, 0x80, 0xBF, 1)
  else if n == 0xE0 then some (0, 0xA0, 0xBF, 2)
  else if n == 0xED then some (13, 0x80, 0x9F, 2)
  else if 0xE1 ≤ n && n ≤ 0xEF then some (n - 0xE0, 0x80, 0xBF, 2)
  else if n == 0xF0 then some (0, 0x90, 0xBF, 3)
  else if 0xF1 ≤ n && n ≤ 0xF3 then some (n - 0xF0, 0x80, 0xBF, 3)
  else if n == 0xF4 then some (4, 0x80, 0x8F, 3)
  else none

/-- Reads the bytes that continue a character; the first of them lies in a range of its own. -/
def follow (bits low high : Nat) : Nat → Bytes → Option Char × Bytes
  | 0, rest => (some (Char.ofNat bits), rest)
  | _ + 1, [] => (none, [])
  | more + 1, b :: rest =>
    if low ≤ b.toNat && b.toNat ≤ high then
      follow (bits * 64 + (b.toNat - 0x80)) 0x80 0xBF more rest
    else (none, b :: rest)

private theorem length_follow_le (bits low high more : Nat) (bs : Bytes) :
    (follow bits low high more bs).2.length ≤ bs.length := by
  induction more generalizing bits low high bs with
  | zero => simp [follow]
  | succ more ih =>
    cases bs with
    | nil => simp [follow]
    | cons b rest =>
      simp only [follow]
      split
      · exact Nat.le_trans (ih _ _ _ _) (by simp)
      · simp

/-- The character that starts with the given byte, or `none` for an ill-formed start, and the bytes
after it. -/
def next (b : UInt8) (rest : Bytes) : Option Char × Bytes :=
  if b.toNat < 0x80 then (some (Char.ofNat b.toNat), rest)
  else match lead b.toNat with
    | none => (none, rest)
    | some (bits, low, high, more) => follow bits low high more rest

theorem length_next_le (b : UInt8) (rest : Bytes) : (next b rest).2.length ≤ rest.length := by
  unfold next
  split
  · simp
  · split
    · simp
    · exact length_follow_le _ _ _ _ _

/-- The characters of a byte sequence, with `none` for each ill-formed start. -/
def pieces : Bytes → List (Option Char)
  | [] => []
  | b :: rest => (next b rest).1 :: pieces (next b rest).2
termination_by bs => bs.length
decreasing_by exact Nat.lt_succ_of_le (length_next_le b rest)

/-- The characters of a well-formed byte sequence. -/
def decodeChars? (bs : Bytes) : Option (List Char) :=
  (pieces bs).mapM id

/-- The text of a well-formed byte sequence. -/
def decode? (bs : Bytes) : Option String :=
  (decodeChars? bs).map String.ofList

/-- The text of any byte sequence, with U+FFFD for each ill-formed start. -/
def decodeLossy (bs : Bytes) : String :=
  String.ofList ((pieces bs).map (·.getD '\uFFFD'))

end Utf8

end RuntimeFlag
