import RuntimeFlag.Listing.Rows
import RuntimeFlag.Session
import RuntimeFlag.Toggle
/-!
# What the commands do
-/
namespace RuntimeFlag.CommandLine.Command

def checkFlag (client : Client) (app : String) : Dialogue Unit := do
  Dialogue.printLine (Text.truth (← Toggle.isEnabled client app))

/-- Lists the applications on a runtime. Progress is told to readers only, so that a program gets
the document and nothing else. -/
def listApps (palette : Palette) (timestamp : String) (format : Listing.Format) (client : Client)
    (runtime : Runtime) : Dialogue Unit := do
  if format.isInteractive then
    Dialogue.printLine
      ("Getting apps on the " ++ runtime.label ++ " runtime as " ++
        palette.userName client.settings.displayName ++ "...")
  let rows ← Listing.rows client runtime
  if format.isInteractive then Dialogue.markSuccess palette
  Dialogue.printLine (format.write timestamp rows)

def perform (surroundings : Surroundings) (options : Options) (command : Command) :
    Dialogue Unit := do
  let palette := surroundings.environment.palette
  let client ← Session.start surroundings options
  match command with
  | .set app enabled => Toggle.run palette client ⟨app, enabled⟩
  | .check app => checkFlag client app
  | .list runtime => listApps palette surroundings.timestamp options.format client runtime

end RuntimeFlag.CommandLine.Command
