import RuntimeFlag.Credential.Token
import RuntimeFlag.Failure
import RuntimeFlag.Settings.Basic
import RuntimeFlag.Url.Parser
/-!
# Sessions

What the settings give to every command: a token to send, a name to show, and the address of the
control plane.
-/
namespace RuntimeFlag.Settings

/-- The token without blanks around it, if there is one. -/
def token? (settings : Settings) : Option (List Char) :=
  settings.accessToken.bind fun stored => Token.usable? stored.toList

def isLoggedIn (settings : Settings) : Bool := settings.token?.isSome

/-- The value that is sent for the token. -/
def authorization (settings : Settings) : Except Failure String :=
  match settings.token? with
  | some token => .ok (String.ofList (Token.header token))
  | none => .error .notLoggedIn

def claims? (settings : Settings) : Option Claims := settings.token?.bind Token.claims?

/-- The second at which the token expired, if it did before the given one. -/
def expiredAt? (settings : Settings) (now : Int) : Option Int :=
  (settings.claims?.bind Claims.expiresAt?).filter (· < now)

/-- The name to show: the one in the settings, the one in the token, or `unknown`. -/
def displayName (settings : Settings) : String :=
  ((settings.username.filter (· ≠ "")).or (settings.claims?.bind (·.userName))).getD "unknown"

def baseUrl (settings : Settings) : Except Failure Url :=
  match (settings.endpoint.map Text.trim).filter (· ≠ "") with
  | none => .error (.settings .missingEndpoint)
  | some endpoint =>
    match Url.parse endpoint with
    | .ok url => .ok url
    | .error fault =>
      .error (.settings (.invalid ("api_endpoint '" ++ endpoint ++ "': " ++ fault.message)))

end RuntimeFlag.Settings
