import RuntimeFlag.Url.Domain.Label
/-!
# Domains

A domain is made of labels with dots between them. It is compared and written in ASCII.
-/
namespace RuntimeFlag.Domain

/-- Whether a character of ASCII cannot stand in a domain. -/
def isForbidden (c : Char) : Bool :=
  c.toNat ≤ 0x20 || c.toNat = 0x7F || "%#/:<>?@[\\]^|".toList.contains c

/-- The labels of a domain. Where one of them has characters that run from right to left, each has
to run one way. -/
def labels? (cs : List Char) : Option (List Label) := do
  let labels ← ((← folded? cs).splitOn '.').mapM Label.ofText?
  if labels.all Label.isReadable && (!labels.any Label.hasRight || labels.all Label.runsOneWay) then
    pure labels
  else none

def ascii? (cs : List Char) : Option (List Char) := do
  let name := ['.'].intercalate ((← labels? cs).map Label.written)
  if name.any isForbidden then none else pure name

end RuntimeFlag.Domain
