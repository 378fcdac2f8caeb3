import RuntimeFlag.Failure
import RuntimeFlag.Json.Value
import RuntimeFlag.Text.Plain
import RuntimeFlag.Url.Form
import RuntimeFlag.Url.Origin
/-!
# Requests

What is asked of the control plane: a page of a collection, or a change of the flag of an
application. Pages after the first one are asked for by the URL that the page before them names;
such a URL must not lead to another server, because the credential goes with it.
-/
namespace RuntimeFlag

inductive Action
  | fetch
  | setFlag (enabled : Bool)
  deriving DecidableEq, Repr

/-- A request, with the credential that it carries. -/
structure Request where
  action : Action
  url : Url
  credential : Option String
  deriving DecidableEq, Repr

/-- A header of a request. Sensitive ones are not shown to anybody. -/
structure Header where
  name : String
  value : String
  sensitive : Bool
  deriving DecidableEq, Repr

namespace Request

def method (request : Request) : String :=
  match request.action with
  | .fetch => "GET"
  | .setFlag _ => "PUT"

def body? (request : Request) : Option Json.Value :=
  match request.action with
  | .fetch => none
  | .setFlag enabled => some (.object [("diego", .flag enabled)])

def headers (request : Request) : List Header :=
  (request.credential.map fun value => ⟨"authorization", value, true⟩).toList

end Request

inductive Collection
  | apps
  | spaces
  | organizations
  deriving DecidableEq, Repr

def Collection.path : Collection → String
  | .apps => "/v2/apps"
  | .spaces => "/v2/spaces"
  | .organizations => "/v2/organizations"

/-- Which records of a collection are wanted. -/
inductive Filter
  | flag (enabled : Bool)
  | name (exactly : String)
  deriving DecidableEq, Repr

/-- A filter as the control plane reads it. -/
def Filter.text : Filter → String
  | .flag enabled => "diego:" ++ Text.truth enabled
  | .name exactly => "name:" ++ exactly

/-- Which page of a collection is wanted. -/
inductive Cursor
  | first
  | next (url : String)
  deriving DecidableEq, Repr

/-- A collection as it is asked for. -/
structure Query where
  base : Url
  collection : Collection
  filter : Option Filter
  pageSize : Option Nat
  /-- The space whose applications are wanted; it says nothing about other collections. -/
  spaceGuid : Option String
  deriving DecidableEq, Repr

namespace Query

def all (base : Url) (collection : Collection) : Query := ⟨base, collection, none, none, none⟩

/-- The path that is asked for. -/
def path (query : Query) : String :=
  match query.collection, query.spaceGuid with
  | .apps, some guid => "/v2/spaces/" ++ guid ++ "/apps"
  | collection, _ => collection.path

/-- The pairs that are asked with. -/
def pairs (query : Query) : List (String × String) :=
  (query.filter.map fun filter => ("q", filter.text)).toList ++
    (query.pageSize.map fun size => ("results-per-page", Text.decimal size)).toList ++
      if query.collection = .spaces then [("inline-relations-depth", "1")] else []

end Query

/-- The URL of a path of the control plane. -/
def urlForPath (base : Url) (path : String) : Except Failure Url :=
  match base.join path with
  | .ok url => .ok url
  | .error fault =>
    .error (.settings (.invalid ("cannot build URL for " ++ path ++ ": " ++ fault.message)))

namespace Query

def firstUrl (query : Query) : Except Failure Url :=
  (urlForPath query.base query.path).map fun url => url.appendPairs query.pairs

/-- The URL of a page that another page names. -/
def nextUrl (query : Query) (next : String) : Except Failure Url :=
  let invalid (text : String) : Except Failure Url := .error (.api (.invalidResponse text))
  match query.base.join next with
  | .error fault => invalid ("bad next_url '" ++ next ++ "': " ++ fault.message)
  | .ok url =>
    if url.sameOrigin query.base then .ok url
    else invalid ("next_url '" ++ next ++ "' points outside " ++ query.base.text)

/-- The request for a page, without credential. -/
def request (query : Query) (cursor : Cursor) : Except Failure Request :=
  let url := match cursor with
    | .first => query.firstUrl
    | .next next => query.nextUrl next
  url.map fun url => ⟨.fetch, url, none⟩

end Query

/-- The request to change the flag of an application, without credential. -/
def flagRequest (base : Url) (guid : String) (enabled : Bool) : Except Failure Request :=
  (urlForPath base ("/v2/apps/" ++ guid)).map fun url => ⟨.setFlag enabled, url, none⟩

def Request.withCredential (request : Request) (credential : String) : Request :=
  { request with credential := some credential }

end RuntimeFlag
