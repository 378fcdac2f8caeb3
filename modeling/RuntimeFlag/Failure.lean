import RuntimeFlag.Text.Lines
import RuntimeFlag.Text.Plain
/-!
# Failures

Everything that can go wrong, each with its cause. `Failure.message` is the wording, and
`Failure.outputLines` are the lines of a response that are shown after it.
-/
namespace RuntimeFlag

/-- Why the control plane gave no usable answer. -/
inductive ApiFault
  | unauthorized
  | forbidden
  | notFound (text : String)
  | badRequest (text : String)
  | serverError (text : String)
  | network (text : String)
  | invalidResponse (text : String)
  deriving DecidableEq, Repr

def ApiFault.message : ApiFault → String
  | .unauthorized =>
    "Authentication failed. The access token was rejected; log in again."
  | .forbidden => "Access denied. You don't have permission to access this resource."
  | .notFound text => "Resource not found: " ++ text
  | .badRequest text => "Bad request: " ++ text
  | .serverError text => "Server error: " ++ text
  | .network text => "Network error: " ++ text
  | .invalidResponse text => "Invalid API response: " ++ text

/-- The text of a response that a fault carries. -/
def ApiFault.body? : ApiFault → Option String
  | .notFound text | .badRequest text | .serverError text => some text
  | .unauthorized | .forbidden | .network _ | .invalidResponse _ => none

/-- Why the settings cannot be used. -/
inductive SettingsFault
  | missingFile (path : String)
  | unparsable (text : String)
  | invalid (text : String)
  | missingEndpoint
  deriving DecidableEq, Repr

def SettingsFault.message : SettingsFault → String
  | .missingFile path =>
    "Configuration file not found at " ++ path ++ ". Log in with the platform CLI first."
  | .unparsable text => "Failed to parse configuration: " ++ text
  | .invalid text => "Invalid configuration: " ++ text
  | .missingEndpoint => "API endpoint not configured. Set `api_endpoint` or pass --api."

/-- Why a command fails. -/
inductive Failure
  | notLoggedIn
  | api (fault : ApiFault)
  | settings (fault : SettingsFault)
  | appNotFound (name : String)
  /-- The flag of an application is not what was asked for. -/
  | diverged (app : String) (requested : Bool)
  /-- A file cannot be read. -/
  | io (text : String)
  deriving DecidableEq, Repr

namespace Failure

def message : Failure → String
  | .notLoggedIn => "You must be logged in"
  | .api fault => fault.message
  | .settings fault => fault.message
  | .appNotFound name => "App " ++ name ++ " not found"
  | .diverged app requested =>
    "Diego support for " ++ app ++ " is NOT set to " ++ Text.truth requested
  | .io text => text

/-- The lines of the response text that a failure carries. -/
def outputLines : Failure → List String
  | .api fault => (fault.body?.map Text.lines).getD []
  | .notLoggedIn | .settings _ | .appNotFound _ | .diverged _ _ | .io _ => []

end Failure

end RuntimeFlag
