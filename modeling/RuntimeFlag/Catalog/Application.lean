import RuntimeFlag.Catalog.Resource
/-!
# Applications
-/
namespace RuntimeFlag

/-- An application and whether it runs on the Diego runtime. -/
structure Application where
  guid : String
  name : String
  spaceGuid : String
  diego : Bool
  deriving DecidableEq, Repr

namespace Catalog

open Json

structure ApplicationDraft where
  name : Option String
  spaceGuid : Option String
  diego : Option (Option Bool)

def applicationEntity : Decoder (String × String × Bool) :=
  Shape.decoder
    { title := "struct AppEntity"
      empty := (⟨none, none, none⟩ : ApplicationDraft)
      slots :=
        [.ofField "name" false .text (·.name) fun draft name => { draft with name := some name },
          .ofField "space_guid" false .text (·.spaceGuid) fun draft guid =>
            { draft with spaceGuid := some guid },
          .ofField "diego" true (.optional .flag) (·.diego) fun draft diego =>
            { draft with diego := some diego }]
      build := fun draft => do
        let name ← needed "name" draft.name
        let spaceGuid ← needed "space_guid" draft.spaceGuid
        pure (name, spaceGuid, draft.diego.join.getD false) }

/-- Reads an application; a flag that is left out is false. -/
def application : Decoder Application := fun doc =>
  (resource applicationEntity doc).map fun r => ⟨r.guid, r.entity.1, r.entity.2.1, r.entity.2.2⟩

end Catalog

end RuntimeFlag
