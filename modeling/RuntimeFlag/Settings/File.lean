import RuntimeFlag.Failure
import RuntimeFlag.Settings.Basic
import RuntimeFlag.Text.Utf8
import RuntimeFlag.Yaml.Typed
/-!
# The settings file

A YAML mapping in UTF-8. Every setting may be missing, and keys that are no settings are skipped.
-/
namespace RuntimeFlag

/-- What a path leads to. -/
inductive FileEntry
  | missing
  | unreadable (reason : String)
  | content (bytes : Bytes)
  deriving DecidableEq, Repr

namespace Settings

private def textMember (name : String) (members : List (String × Yaml.Node)) :
    Except Yaml.Fault (Option String) :=
  (Yaml.member? name Yaml.Node.asTextOrNone members).map Option.join

/-- The size of pages, among the preferences. -/
private def pageSizeIn (root preferences : Yaml.Node) : Except Yaml.Fault (Option Nat) := do
  Yaml.member? "page_size" Yaml.Node.asCount (← root.members preferences)

def ofDocument (root : Yaml.Node) : Except Yaml.Fault Settings := do
  let members ← root.members root
  let pageSize ← Yaml.member? "preferences" (pageSizeIn root) members
  pure
    { endpoint := ← textMember "api_endpoint" members
      accessToken := ← textMember "access_token" members
      username := ← textMember "username" members
      spaceGuid := ← textMember "space_guid" members
      skipTlsChecks :=
        (← Yaml.member? "skip_ssl_validation" Yaml.Node.asFlag members).getD empty.skipTlsChecks
      pageSize := pageSize.join.getD empty.pageSize }

/-- The settings that a text writes. A text without a document writes none. -/
def ofText (text : List Char) : Except Yaml.Fault Settings := do
  ofDocument ((← Yaml.document text).getD .empty)

def ofFile (path : String) : FileEntry → Except Failure Settings
  | .missing => .error (.settings (.missingFile path))
  | .unreadable reason => .error (.io reason)
  | .content bytes =>
    match Utf8.decodeChars? bytes with
    | none => .error (.io "stream did not contain valid UTF-8")
    | some text => (ofText text).mapError fun fault => .settings (.unparsable fault.message)

/-- The settings file of a user with a home directory. -/
def defaultPath (home : String) : String :=
  home ++ (if home.endsWith "/" then "" else "/") ++ ".diego-enabler/config.yaml"

end Settings

end RuntimeFlag
