import RuntimeFlag.Dialogue
import RuntimeFlag.Url.Percent
/-!
# Delivery of requests

Only URLs of the web can be asked, and not every character that a host may have can be sent. What
cannot be sent never reaches the network.
-/
namespace RuntimeFlag

/-- The URL without user name and password, which are sent as a header; ill-formed ones stay. -/
def Url.withoutUserInfo (url : Url) : Url :=
  let textOf (cs : List Char) : Option (List Char) := Utf8.decodeChars? (Percent.decode cs)
  match textOf url.username with
  | none => url
  | some name =>
    if name.isEmpty && (url.password.bind textOf).isNone then url
    else { url with username := [], password := none }

namespace Transport

/-- The number of characters that a URL may have to be sent. -/
def maxUrlLength : Nat := 65534

def isSendable (url : Url) : Bool :=
  [['h', 't', 't', 'p'], ['h', 't', 't', 'p', 's']].contains url.scheme &&
    !((url.host.map Host.chars).getD []).any (fun c => "\"`\x7b\x7d".toList.contains c) &&
    url.chars.length ≤ maxUrlLength

/-- What becomes of a request when the control plane cannot be reached. -/
def undelivered (request : Request) : Outcome :=
  let url := request.url.withoutUserInfo
  .error <| .network <|
    if isSendable url then "Failed to connect to API"
    else "builder error for url (" ++ url.text ++ ")"

/-- What becomes of a request whose connection ends before a whole response came. -/
def interrupted (request : Request) : Outcome :=
  .error <| .network <|
    "error sending request for url (" ++ request.url.withoutUserInfo.text ++ ")"

end Transport

end RuntimeFlag
