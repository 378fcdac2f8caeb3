import RuntimeFlag.Url.Basic
import RuntimeFlag.Url.Percent
/-!
# Form pairs

Names and values as the query of a URL: letters, digits and `*-._` stand for themselves, a space is
written as `+`, and every other byte is percent-encoded. Pairs are joined by `&`.
-/
namespace RuntimeFlag.Form

def isPlain (c : Char) : Bool :=
  c.isAlphanum || "*-._".toList.contains c

def encodeChar (c : Char) : List Char :=
  if isPlain c then [c]
  else if c = ' ' then ['+']
  else (Utf8.encodeChar c).flatMap Percent.encodeByte

def encode (text : String) : List Char :=
  text.toList.flatMap encodeChar

def encodePair (pair : String × String) : List Char :=
  encode pair.1 ++ '=' :: encode pair.2

/-- The query with pairs behind it; nothing at all is no query. -/
def append (query : Option (List Char)) (pairs : List (String × String)) : Option (List Char) :=
  let old := query.getD []
  let written := (if old.isEmpty then [] else [old]) ++ pairs.map encodePair
  if written.isEmpty then none else some (['&'].intercalate written)

end RuntimeFlag.Form

namespace RuntimeFlag

/-- The URL with pairs behind its query. -/
def Url.appendPairs (url : Url) (pairs : List (String × String)) : Url :=
  { url with query := Form.append url.query pairs }

end RuntimeFlag
