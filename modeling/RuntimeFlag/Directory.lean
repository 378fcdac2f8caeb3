import Std.Data.HashMap
import RuntimeFlag.Catalog.Application
import RuntimeFlag.Catalog.Space
/-!
# The directory of spaces and organizations

What tells the owner of an application. Ownership is secondary: an application of an unknown space
still has a row, with the guid of the space and no organization.
-/
namespace RuntimeFlag

/-- An application with its owners, as it is listed. -/
structure Row where
  name : String
  space : String
  organization : String
  deriving DecidableEq, Repr

/-- Spaces and organizations by guid. -/
structure Directory where
  spaces : Std.HashMap String Space
  organizations : Std.HashMap String Organization

/-- The name of the organization that a space holds in place. -/
def Space.ownerName? (space : Space) : Option String :=
  (space.organization.map (·.name)).filter (· ≠ "")

namespace Directory

/-- A directory of lists in which the last record of a guid counts. -/
def ofLists (spaces : List Space) (organizations : List Organization) : Directory where
  spaces := spaces.foldl (fun known s => known.insert s.guid s) ∅
  organizations := organizations.foldl (fun known o => known.insert o.guid o) ∅

/-- Whether the organizations have to be asked for, because a space does not name its own. -/
def needsOrganizations (spaces : List Space) : Bool :=
  spaces.any fun space => space.ownerName?.isNone

def listedName? (directory : Directory) (guid : String) : Option String :=
  (directory.organizations[guid]?.map (·.name)).filter (· ≠ "")

/-- The owner of a space: the name it holds, the listed name, or else the guid. -/
def ownerOf (directory : Directory) (space : Space) : String :=
  (space.ownerName?.or (directory.listedName? space.organizationGuid)).getD space.organizationGuid

def row (directory : Directory) (app : Application) : Row :=
  match directory.spaces[app.spaceGuid]? with
  | some space => ⟨app.name, space.name, directory.ownerOf space⟩
  | none => ⟨app.name, app.spaceGuid, ""⟩

def rows (directory : Directory) (apps : List Application) : List Row :=
  apps.map directory.row

end Directory

end RuntimeFlag
