import RuntimeFlag.Url.Parser
/-!
# Origins

What decides whether two URLs belong to the same server: scheme, host and port. A `blob` URL has the
origin of the URL in its path. URLs of other schemes have an origin of their own, which equals no
other.
-/
namespace RuntimeFlag

/-- The server that a URL belongs to. -/
structure Origin where
  scheme : List Char
  host : Host
  port : Nat
  deriving DecidableEq, Repr

namespace Url

/-- The origin of a URL, looked up through at most `depth` nested `blob` URLs. -/
def originWithin (depth : Nat) (url : Url) : Option Origin :=
  match schemeKind url.scheme, url.host with
  | .special port, some host => some ⟨url.scheme, host, url.port.getD port⟩
  | _, _ =>
    match depth with
    | 0 => none
    | depth + 1 =>
      if url.scheme = "blob".toList then
        match parse (String.ofList url.path.chars) with
        | .ok inner => originWithin depth inner
        | .error _ => none
      else none

/-- The origin of a URL; `none` is an origin that equals no other. -/
def origin? (url : Url) : Option Origin :=
  originWithin url.path.chars.length url

def sameOrigin (a b : Url) : Bool :=
  match a.origin?, b.origin? with
  | some x, some y => x = y
  | _, _ => false

end Url

end RuntimeFlag
