import RuntimeFlag.Catalog.Runtime
import RuntimeFlag.Client
import RuntimeFlag.Directory
import RuntimeFlag.Text.Plain
/-!
# The rows of a runtime

A listing needs the applications and the spaces. Organizations are asked for only when a space does
not name its own, and a listing does without them when they cannot be had.
-/
namespace RuntimeFlag.Listing

/-- The organizations that spaces need; none when they cannot be had, which is a warning. -/
def organizationsFor (client : Client) (spaces : List Space) : Dialogue (List Organization) := do
  if Directory.needsOrganizations spaces then
    match ← Dialogue.attempt client.listOrganizations with
    | .ok organizations => pure organizations
    | .error failure =>
      Dialogue.log .warn .listCommand
        ("Could not list organizations, showing GUIDs instead: " ++ failure.message)
      pure []
  else pure []

def rows (client : Client) (runtime : Runtime) : Dialogue (List Row) := do
  let apps ← client.listApplications runtime.flag
  Dialogue.log .debug .listCommand
    ("Fetched " ++ Text.decimal apps.length ++ " " ++ runtime.label ++ " apps")
  let spaces ← client.listSpaces
  let organizations ← organizationsFor client spaces
  Dialogue.log .debug .listCommand
    ("Fetched " ++ Text.decimal spaces.length ++ " spaces, " ++ Text.decimal organizations.length ++
      " organizations")
  pure ((Directory.ofLists spaces organizations).rows apps)

end RuntimeFlag.Listing
