import RuntimeFlag.Catalog.Organization
/-!
# Spaces
-/
namespace RuntimeFlag

/-- A space of an organization, which the control plane may describe in place. -/
structure Space where
  guid : String
  name : String
  organizationGuid : String
  organization : Option Organization
  deriving DecidableEq, Repr

namespace Catalog

open Json

structure SpaceDraft where
  name : Option String
  organizationGuid : Option String
  organization : Option (Option Organization)

def spaceEntity : Decoder (String × String × Option Organization) :=
  Shape.decoder
    { title := "struct SpaceEntity"
      empty := (⟨none, none, none⟩ : SpaceDraft)
      slots :=
        [.ofField "name" false .text (·.name) fun draft name => { draft with name := some name },
          .ofField "organization_guid" false .text (·.organizationGuid) fun draft guid =>
            { draft with organizationGuid := some guid },
          .ofField "organization" true (.optional organization) (·.organization) fun draft org =>
            { draft with organization := some org }]
      build := fun draft => do
        let name ← needed "name" draft.name
        let organizationGuid ← needed "organization_guid" draft.organizationGuid
        pure (name, organizationGuid, draft.organization.join) }

def space : Decoder Space := fun doc =>
  (resource spaceEntity doc).map fun r => ⟨r.guid, r.entity.1, r.entity.2.1, r.entity.2.2⟩

end Catalog

end RuntimeFlag
