import RuntimeFlag.Settings.Credential
import RuntimeFlag.Text.Plain
import RuntimeFlag.Walk
/-!
# The client of the control plane

Every request carries the credential of the session; without a credential nothing is sent.
-/
namespace RuntimeFlag

/-- A session with a control plane. -/
structure Client where
  settings : Settings
  base : Url
  deriving DecidableEq, Repr

/-- What a look-up by name finds. The guid is empty when it finds nothing. -/
structure AppSummary where
  guid : String
  name : String
  diego : Bool
  deriving DecidableEq, Repr

def AppSummary.isFound (summary : AppSummary) : Bool := summary.guid ≠ ""

namespace Client

/-- The client of a session, whose endpoint must be a URL. -/
def ofSettings (settings : Settings) : Except Failure Client :=
  settings.baseUrl.map fun base => ⟨settings, base⟩

def query (client : Client) (collection : Collection) : Query :=
  { Query.all client.base collection with pageSize := some client.settings.effectivePageSize }

def walk {α : Type} (client : Client) (query : Query) (record : Json.Decoder α) :
    Dialogue (List α) := do
  let credential ← Dialogue.ofExcept client.settings.credential
  Walk.all
    { request := fun cursor => (query.request cursor).map (·.withCredential credential)
      parse := fun body => (Catalog.decodePage record body).mapError .api }

/-- The applications whose flag has a value. -/
def listApplications (client : Client) (flag : Bool) : Dialogue (List Application) :=
  client.walk { client.query .apps with filter := some (.flag flag) } Catalog.application

def listSpaces (client : Client) : Dialogue (List Space) :=
  client.walk (client.query .spaces) Catalog.space

def listOrganizations (client : Client) : Dialogue (List Organization) :=
  client.walk (client.query .organizations) Catalog.organization

/-- What the first page of a look-up says about a name. -/
def summaryOf (name : String) (apps : List Application) : AppSummary :=
  match apps.find? (·.name == name) with
  | some app => ⟨app.guid, app.name, app.diego⟩
  | none => ⟨"", name, false⟩

/-- The applications with a name, in the space of the settings if they have one. -/
def lookupQuery (client : Client) (name : String) : Query :=
  { client.query .apps with
    filter := some (.name name)
    spaceGuid := client.settings.spaceGuid }

/-- Looks for an application by name, on the first page of those that have it. -/
def findApplication (client : Client) (name : String) : Dialogue AppSummary := do
  let credential ← Dialogue.ofExcept client.settings.credential
  let request ← Dialogue.ofExcept ((client.lookupQuery name).request .first)
  let body ← Dialogue.send (request.withCredential credential)
  let page ← Dialogue.ofExcept ((Catalog.decodePage Catalog.application body).mapError .api)
  let summary := summaryOf name page.records
  Dialogue.log .debug .client
    ("Resolved app '" ++ name ++ "' to guid '" ++ summary.guid ++ "' (diego: " ++
      Text.truth summary.diego ++ ")")
  pure summary

def setFlag (client : Client) (guid : String) (enabled : Bool) : Dialogue Unit := do
  let credential ← Dialogue.ofExcept client.settings.credential
  let request ← Dialogue.ofExcept (flagRequest client.base guid enabled)
  Dialogue.log .debug .client ("PUT " ++ request.url.text ++ " diego=" ++ Text.truth enabled)
  let _ ← Dialogue.send (request.withCredential credential)

end Client

end RuntimeFlag
