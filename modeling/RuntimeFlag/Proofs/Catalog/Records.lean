import RuntimeFlag.Catalog.Application
import RuntimeFlag.Catalog.Organization
import RuntimeFlag.Catalog.Page
import RuntimeFlag.Catalog.Space
import RuntimeFlag.Proofs.Json.Accepted
import RuntimeFlag.Request
/-!
# The records of the control plane

The members of every record that the client reads, and of a page, can come in any order: their slots
do not get in the way of each other.
-/
namespace RuntimeFlag

def Collection.Record : Collection → Type
  | .apps => Application
  | .spaces => Space
  | .organizations => Organization

def Collection.decoder : (collection : Collection) → Json.Decoder collection.Record
  | .apps => Catalog.application
  | .spaces => Catalog.space
  | .organizations => Catalog.organization

namespace Catalog

open Json

/-- The shape by which a decoder reads a record. -/
structure Layout {α : Type} (decoder : Decoder α) (δ : Type) where
  shape : Shape δ α
  reads : decoder = shape.decoder
  orderly : Slot.Orderly shape.slots

theorem Layout.strict {α δ : Type} {decoder : Decoder α} (layout : Layout decoder δ) :
    decoder.Strict := by
  rw [layout.reads]
  exact Shape.strict_decoder layout.orderly.lawful

def metadataLayout : Layout metadata (Option String) where
  shape := _
  reads := rfl
  orderly := .single (Slot.lawful_ofField Decoder.strict_text fun _ _ => rfl)

def resourceLayout {ε : Type} {entity : Decoder ε} (h : entity.Strict) :
    Layout (resource entity) (Resource.Draft ε) where
  shape := _
  reads := rfl
  orderly := by
    refine .pair ?_ ?_ ?_
    · exact Slot.lawful_ofField metadataLayout.strict fun _ _ => rfl
    · exact Slot.lawful_ofField h fun _ _ => rfl
    · exact Slot.apart_ofField (by decide) (fun _ _ => rfl) (fun _ _ => rfl) fun _ _ _ => rfl

def applicationEntityLayout : Layout applicationEntity ApplicationDraft where
  shape := _
  reads := rfl
  orderly := by
    refine .triple ?_ ?_ ?_ ?_ ?_ ?_
    · exact Slot.lawful_ofField Decoder.strict_text fun _ _ => rfl
    · exact Slot.lawful_ofField Decoder.strict_text fun _ _ => rfl
    · exact Slot.lawful_ofField Decoder.strict_flag.optional fun _ _ => rfl
    iterate 3
      exact Slot.apart_ofField (by decide) (fun _ _ => rfl) (fun _ _ => rfl) fun _ _ _ => rfl

def organizationEntityLayout : Layout organizationEntity (Option (Option String)) where
  shape := _
  reads := rfl
  orderly := .single (Slot.lawful_ofField Decoder.strict_text.optional fun _ _ => rfl)

private theorem strict_organization : organization.Strict :=
  (resourceLayout organizationEntityLayout.strict).strict.map _

def spaceEntityLayout : Layout spaceEntity SpaceDraft where
  shape := _
  reads := rfl
  orderly := by
    refine .triple ?_ ?_ ?_ ?_ ?_ ?_
    · exact Slot.lawful_ofField Decoder.strict_text fun _ _ => rfl
    · exact Slot.lawful_ofField Decoder.strict_text fun _ _ => rfl
    · exact Slot.lawful_ofField strict_organization.optional fun _ _ => rfl
    iterate 3
      exact Slot.apart_ofField (by decide) (fun _ _ => rfl) (fun _ _ => rfl) fun _ _ _ => rfl

theorem strict_decoder (collection : Collection) : collection.decoder.Strict := by
  cases collection with
  | apps => exact (resourceLayout applicationEntityLayout.strict).strict.map _
  | spaces => exact (resourceLayout spaceEntityLayout.strict).strict.map _
  | organizations => exact strict_organization

def pageLayout {α : Type} {record : Decoder α} (h : record.Strict) :
    Layout (page record) (PageDraft α) where
  shape := _
  reads := rfl
  orderly := by
    refine .pair ?_ ?_ ?_
    · exact Slot.lawful_ofField Decoder.strict_text.optional fun _ _ => rfl
    · exact Slot.lawful_ofField h.list fun _ _ => rfl
    · exact Slot.apart_ofField (by decide) (fun _ _ => rfl) (fun _ _ => rfl) fun _ _ _ => rfl

end Catalog

end RuntimeFlag
