import RuntimeFlag.Text.Hex
/-!
# Internet addresses

The written forms of IPv4 addresses, of up to four numbers in bases 8, 10 and 16, and of IPv6
addresses, in which one run of zeros may be left out and the last two pieces may be written as an
IPv4 address.
-/
namespace RuntimeFlag.Address

/-- The parts of a text between separators. -/
def parts (separator : Char) : List Char → List (List Char)
  | [] => [[]]
  | c :: rest =>
    if c = separator then [] :: parts separator rest
    else match parts separator rest with
      | [] => [[c]]
      | part :: others => (c :: part) :: others

private def digitIn? (base : Nat) (c : Char) : Option Nat :=
  (Text.hexValue? c).filter (· < base)

def digits? (base : Nat) (cs : List Char) : Option Nat :=
  (cs.mapM (digitIn? base)).map fun ds => ds.foldl (fun value d => value * base + d) 0

/-- A number of an IPv4 address: `0x` before hexadecimal digits, `0` before octal ones. -/
def ipv4Number? : List Char → Option Nat
  | [] => none
  | '0' :: 'x' :: rest => digits? 16 rest
  | '0' :: 'X' :: rest => digits? 16 rest
  | '0' :: c :: rest => digits? 8 (c :: rest)
  | cs => digits? 10 cs

/-- The parts of a domain, without the empty one after a last dot. -/
private def domainParts (domain : List Char) : List (List Char) :=
  let all := parts '.' domain
  if all.getLast? = some [] then all.dropLast else all

/-- Whether the last part of a domain is a number, so that the whole must be an address. -/
def endsInNumber (domain : List Char) : Bool :=
  match (domainParts domain).getLast? with
  | none => false
  | some part =>
    (!part.isEmpty && part.all Char.isDigit) || (ipv4Number? part).isSome

/-- An IPv4 address: the last number fills all bytes that the numbers before it leave. -/
def ipv4? (domain : List Char) : Option Nat := do
  let numbers ← (domainParts domain).mapM ipv4Number?
  let last ← numbers.getLast?
  let front := numbers.dropLast
  if 3 < front.length || front.any (255 < ·) || Nat.pow 256 (4 - front.length) ≤ last then none
  else some (front.foldl (fun value n => value * 256 + n) 0 * Nat.pow 256 (4 - front.length) + last)

/-- A piece of an IPv6 address: up to four hexadecimal digits. -/
private def piece? (cs : List Char) : Option Nat :=
  if cs.isEmpty || 4 < cs.length then none else digits? 16 cs

/-- A decimal byte without leading zeros. -/
private def byte? (cs : List Char) : Option Nat :=
  match cs with
  | [] => none
  | '0' :: _ :: _ => none
  | cs => (digits? 10 cs).filter (· ≤ 255)

/-- The two pieces that an IPv4 address stands for. -/
private def dotted? (cs : List Char) : Option (List Nat) :=
  match (parts '.' cs).mapM byte? with
  | some [a, b, c, d] => some [a * 256 + b, c * 256 + d]
  | _ => none

/-- The pieces of one side; `last` tells whether it ends the address. -/
private def side? (last : Bool) (cs : List Char) : Option (List Nat) :=
  if cs.isEmpty then some []
  else
    let all := parts ':' cs
    match all.getLast?, last with
    | some part, true => do
      let front ← all.dropLast.mapM piece?
      let back ← if part.contains '.' then dotted? part else (piece? part).map fun n => [n]
      pure (front ++ back)
    | _, _ => all.mapM piece?

/-- The texts before and after the first `::`. -/
private def splitAtGap : List Char → Option (List Char × List Char)
  | ':' :: ':' :: rest => some ([], rest)
  | c :: rest => (splitAtGap rest).map fun (front, back) => (c :: front, back)
  | [] => none

/-- The eight pieces of an IPv6 address. -/
def ipv6? (cs : List Char) : Option (List Nat) :=
  match splitAtGap cs with
  | some (front, back) => do
    let left ← side? false front
    let right ← side? true back
    if 7 < left.length + right.length then none
    else some (left ++ List.replicate (8 - (left.length + right.length)) 0 ++ right)
  | none => do
    let pieces ← side? true cs
    if pieces.length = 8 then some pieces else none

end RuntimeFlag.Address
