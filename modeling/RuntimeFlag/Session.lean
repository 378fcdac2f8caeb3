import RuntimeFlag.Calendar
import RuntimeFlag.Client
import RuntimeFlag.Surroundings
/-!
# Starting a session

Before a command asks anything it needs a settings file, a token, and an endpoint; it fails at the
first one that is not there. A token that has expired is used all the same.
-/
namespace RuntimeFlag.Session

/-- The settings file: the one that is named, or the one of the user. -/
def settingsPath (surroundings : Surroundings) (named : Option String) : Except Failure String :=
  match named.or (surroundings.home.map Settings.defaultPath) with
  | some path => .ok path
  | none => .error (.settings (.invalid "Could not determine home directory"))

/-- Reads the settings, with the endpoint that the options name. -/
def settings (surroundings : Surroundings) (options : CommandLine.Options) :
    Dialogue Settings := do
  let path ← Dialogue.ofExcept (settingsPath surroundings options.settingsPath)
  let settings ← Dialogue.ofExcept (Settings.ofFile path (surroundings.entry path))
  Dialogue.log .debug .settings ("Loaded configuration from " ++ path)
  pure (settings.withEndpoint options.endpoint)

def warnIfExpired (now : Int) (settings : Settings) : Dialogue Unit :=
  match settings.expiredAt? now with
  | some second =>
    Dialogue.log .warn .context
      ("Access token expired at " ++ Calendar.text second ++ "; the API may reject it")
  | none => pure ()

def start (surroundings : Surroundings) (options : CommandLine.Options) : Dialogue Client := do
  let settings ← settings surroundings options
  if !settings.isLoggedIn then Dialogue.fail .notLoggedIn
  warnIfExpired surroundings.now settings
  Dialogue.ofExcept (Client.ofSettings settings)

end RuntimeFlag.Session
