import RuntimeFlag.Dialogue
import RuntimeFlag.Text.Blank
import RuntimeFlag.Transport.Status
/-!
# Responses

What a response means for the request that it answers. A success gives its body; every other status
is a fault, and some faults keep the text of the body to be shown.
-/
namespace RuntimeFlag.Transport

structure Response where
  status : Nat
  body : Bytes
  deriving DecidableEq, Repr

namespace Response

/-- The text of the body; ill-formed bytes are replaced, and a blank text by another one. -/
def textOr (response : Response) (substitute : String) : String :=
  let text := Utf8.decodeLossy response.body
  if Text.allBlank text then substitute else text

/-- The fault that a response without success means. -/
def fault (response : Response) : ApiFault :=
  let status := statusText response.status
  match response.status with
  | 401 => .unauthorized
  | 403 => .forbidden
  | 404 => .notFound (response.textOr "Resource not found")
  | 400 | 422 => .badRequest (response.textOr "Bad request")
  | code =>
    if 500 ≤ code && code < 600 then .serverError (response.textOr ("Server error: " ++ status))
    else .invalidResponse ("Unexpected status code: " ++ status)

def outcome (response : Response) : Outcome :=
  if 200 ≤ response.status && response.status < 300 then .ok response.body
  else .error response.fault

end Response

end RuntimeFlag.Transport
