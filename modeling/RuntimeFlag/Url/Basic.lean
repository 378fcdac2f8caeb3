/-!
# URLs

The parts of a URL and its written form. Parts are kept as they are written, already encoded.
-/
namespace RuntimeFlag

/-- The computer that a URL names. -/
inductive Host
  | domain (name : List Char)
  | ipv4 (address : Nat)
  | ipv6 (pieces : List Nat)
  deriving DecidableEq, Repr

namespace Host

private def decimal (n : Nat) : List Char := Nat.toDigits 10 n

private def writeIpv4 (address : Nat) : List Char :=
  decimal (address / 0x1000000 % 256) ++ '.' :: decimal (address / 0x10000 % 256) ++
    '.' :: decimal (address / 0x100 % 256) ++ '.' :: decimal (address % 256)

/-- The length of the run of zeros at the start. -/
private def zeros (pieces : List Nat) : Nat := (pieces.takeWhile (· = 0)).length

/-- The start and the length of the first longest run of zeros in a list that stands at a position
of a longer one. -/
private def longestZeros : Nat → List Nat → Nat × Nat
  | _, [] => (0, 0)
  | position, piece :: rest =>
    let later := longestZeros (position + 1) rest
    let here := zeros (piece :: rest)
    if later.2 ≤ here then (position, here) else later

private def writePieces (pieces : List Nat) : List Char :=
  [':'].intercalate (pieces.map (Nat.toDigits 16))

private def writeIpv6 (pieces : List Nat) : List Char :=
  let (start, length) := longestZeros 0 pieces
  if length < 2 then writePieces pieces
  else writePieces (pieces.take start) ++ ':' :: ':' :: writePieces (pieces.drop (start + length))

def chars : Host → List Char
  | .domain name => name
  | .ipv4 address => writeIpv4 address
  | .ipv6 pieces => '[' :: writeIpv6 pieces ++ [']']

end Host

/-- The path of a URL: a text without structure, or segments that each follow a slash. -/
inductive UrlPath
  | plain (text : List Char)
  | segments (parts : List (List Char))
  deriving DecidableEq, Repr

def UrlPath.chars : UrlPath → List Char
  | .plain text => text
  | .segments parts => parts.flatMap ('/' :: ·)

/-- A URL. The host is absent when the URL has no authority, and a name without characters when the
authority is empty. -/
structure Url where
  scheme : List Char
  username : List Char
  password : Option (List Char)
  host : Option Host
  port : Option Nat
  path : UrlPath
  query : Option (List Char)
  fragment : Option (List Char)
  deriving DecidableEq, Repr

/-- What a scheme says about the form of its URLs. -/
inductive SchemeKind
  | file
  /-- A scheme with a default port. -/
  | special (port : Nat)
  | other
  deriving DecidableEq, Repr

def schemeKind (scheme : List Char) : SchemeKind :=
  match String.ofList scheme with
  | "http" | "ws" => .special 80
  | "https" | "wss" => .special 443
  | "ftp" => .special 21
  | "file" => .file
  | _ => .other

/-- Whether backslashes count as slashes. -/
def SchemeKind.isSpecial : SchemeKind → Bool
  | .file | .special _ => true
  | .other => false

namespace Url

/-- User name and password, as they stand before the host. -/
def userInfoChars (url : Url) : List Char :=
  match url.password with
  | some password => url.username ++ ':' :: password ++ ['@']
  | none => if url.username.isEmpty then [] else url.username ++ ['@']

/-- The part between the scheme and the path. -/
def authorityChars (url : Url) : List Char :=
  match url.host with
  | none =>
    match url.path with
    | .segments ([] :: _ :: _) => ['/', '.']
    | _ => []
  | some host =>
    '/' :: '/' :: url.userInfoChars ++ host.chars ++
      (url.port.map fun port => ':' :: Nat.toDigits 10 port).getD []

def chars (url : Url) : List Char :=
  url.scheme ++ ':' :: url.authorityChars ++ url.path.chars ++
    (url.query.map ('?' :: ·)).getD [] ++ (url.fragment.map ('#' :: ·)).getD []

def text (url : Url) : String := String.ofList url.chars

/-- The port that a connection uses. -/
def effectivePort? (url : Url) : Option Nat :=
  url.port.or <| match schemeKind url.scheme with
    | .special port => some port
    | .file | .other => none

end Url

end RuntimeFlag
