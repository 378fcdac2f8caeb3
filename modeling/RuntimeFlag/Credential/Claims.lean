import RuntimeFlag.Credential.Base64Url
import RuntimeFlag.Calendar
import RuntimeFlag.Json.Decode
/-!
# Claims of a token

A token may have three parts between dots, the second of which says whose it is and when it expires.
-/
namespace RuntimeFlag

/-- What a token says about itself. -/
structure Claims where
  userName : Option String
  expiry : Option Int
  deriving DecidableEq, Repr

namespace Claims

open Json

/-- Claims as far as they have been read: of each, whether it was there and what it was. -/
structure Draft where
  userName : Option (Option String)
  expiry : Option (Option Int)

/-- Reads claims; each may be left out. -/
def decoder : Decoder Claims :=
  Shape.decoder
    { title := "claims"
      empty := (⟨none, none⟩ : Draft)
      slots :=
        [.ofField "user_name" true (.optional .text) (·.userName) fun draft name =>
            { draft with userName := some name },
          .ofField "exp" true (.optional .integer) (·.expiry) fun draft expiry =>
            { draft with expiry := some expiry }]
      build := fun draft => pure ⟨draft.userName.join, draft.expiry.join⟩ }

/-- The claims of a token that has no scheme in front. -/
def ofToken? (token : List Char) : Option Claims :=
  match token.splitOn '.' with
  | [_, payload, _] => do
    let bytes ← Base64Url.decode? (Text.dropTailWhile (· = '=') payload)
    (decode decoder bytes).toOption
  | _ => none

/-- The second at which a token expires, if the calendar has it. -/
def expiresAt? (claims : Claims) : Option Int :=
  claims.expiry.filter Calendar.isRepresentable

end Claims

end RuntimeFlag
