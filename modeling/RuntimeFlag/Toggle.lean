import RuntimeFlag.Client
import RuntimeFlag.Palette
import RuntimeFlag.Text.Plain
/-!
# Setting the flag of an application

An answer to a write says only that the write was accepted. So the flag is set in two steps: the
write, and a new look-up which tells whether the flag has the value that was asked for.
-/
namespace RuntimeFlag

/-- How the flag of an application compares with the value asked for. -/
inductive FlagState
  | setting
  | verifying
  | converged
  | diverged
  deriving DecidableEq, Repr

def FlagState.name : FlagState → String
  | .setting => "Setting"
  | .verifying => "Verifying"
  | .converged => "Converged"
  | .diverged => "Diverged"

/-- A value that the flag of an application shall have. -/
structure FlagTarget where
  app : String
  enabled : Bool
  deriving DecidableEq, Repr

namespace Toggle

/-- Logs a step for a target. -/
def debug (target : FlagTarget) (text : String) : Dialogue Unit :=
  Dialogue.log .debug .toggle (target.app ++ ": " ++ text)

/-- Looks for an application that must be there. -/
def lookup (client : Client) (name : String) : Dialogue AppSummary := do
  let summary ← client.findApplication name
  if summary.isFound then pure summary else Dialogue.fail (.appNotFound name)

def isEnabled (client : Client) (name : String) : Dialogue Bool := do
  pure (← lookup client name).diego

def set (client : Client) (target : FlagTarget) : Dialogue Unit := do
  let app ← lookup client target.app
  debug target
    (FlagState.setting.name ++ " guid=" ++ app.guid ++ " desired=" ++ Text.truth target.enabled)
  client.setFlag app.guid target.enabled

/-- Reads the flag again and compares it. -/
def verify (client : Client) (target : FlagTarget) : Dialogue FlagState := do
  debug target FlagState.verifying.name
  let app ← lookup client target.app
  let state : FlagState := if app.diego = target.enabled then .converged else .diverged
  debug target (state.name ++ " (diego=" ++ Text.truth app.diego ++ ")")
  pure state

/-- Sets the flag and verifies it, and tells about each step. -/
def run (palette : Palette) (client : Client) (target : FlagTarget) : Dialogue Unit := do
  let goal := target.app ++ " Diego support "
  Dialogue.printLine ("Setting " ++ goal ++ "to " ++ Text.truth target.enabled)
  set client target
  Dialogue.markSuccess palette
  Dialogue.printLine ("Verifying " ++ goal ++ "is set to " ++ Text.truth target.enabled)
  match ← verify client target with
  | .converged => Dialogue.markSuccess palette
  | state => do
    Dialogue.log .debug .toggleCommand (target.app ++ " ended in " ++ state.name)
    Dialogue.fail (.diverged target.app target.enabled)

end Toggle

end RuntimeFlag
