import RuntimeFlag.Catalog.Resource
/-!
# Organizations
-/
namespace RuntimeFlag

/-- An organization; its name is empty when the control plane leaves it out. -/
structure Organization where
  guid : String
  name : String
  deriving DecidableEq, Repr

namespace Catalog

open Json

def organizationEntity : Decoder (Option String) :=
  Shape.decoder
    { title := "struct OrgEntity"
      empty := (none : Option (Option String))
      slots := [.ofField "name" true (.optional .text) id fun _ name => some name]
      build := fun draft => pure draft.join }

def organization : Decoder Organization := fun doc =>
  (resource organizationEntity doc).map fun r => ⟨r.guid, r.entity.getD ""⟩

end Catalog

end RuntimeFlag
