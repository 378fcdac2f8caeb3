import RuntimeFlag.Json.Decode
/-!
# Resources

The frame that every record of the control plane comes in: its `metadata`, which holds the guid, and
its `entity`, which holds the rest.
-/
namespace RuntimeFlag.Catalog

open Json

/-- A guid with the entity it belongs to. -/
structure Resource (ε : Type) where
  guid : String
  entity : ε

/-- The `metadata` of a resource; only its guid is read. -/
def metadata : Decoder String :=
  Shape.decoder
    { title := "struct Metadata"
      empty := (none : Option String)
      slots := [.ofField "guid" false .text id fun _ guid => some guid]
      build := needed "guid" }

/-- What is known of a resource while its members are read. -/
structure Resource.Draft (ε : Type) where
  guid : Option String
  entity : Option ε

def resource {ε : Type} (entity : Decoder ε) : Decoder (Resource ε) :=
  Shape.decoder
    { title := "struct Resource"
      empty := (⟨none, none⟩ : Resource.Draft ε)
      slots :=
        [.ofField "metadata" false metadata (·.guid) fun draft guid =>
            { draft with guid := some guid },
          .ofField "entity" false entity (·.entity) fun draft entity =>
            { draft with entity := some entity }]
      build := fun draft => do
        let guid ← needed "metadata" draft.guid
        let entity ← needed "entity" draft.entity
        pure ⟨guid, entity⟩ }

end RuntimeFlag.Catalog
