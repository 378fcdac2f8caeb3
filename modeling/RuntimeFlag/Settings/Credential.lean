import RuntimeFlag.Settings.Session
/-!
# The credential of a session
-/
namespace RuntimeFlag.Settings

/-- The token in the form in which requests carry it. -/
def credential (settings : Settings) : Except Failure String := do
  let value ← settings.authorization
  if Token.isHeaderValue value then pure value
  else
    throw (.settings (.invalid "access token contains characters not allowed in a header"))

end RuntimeFlag.Settings
