import RuntimeFlag.Proofs.Catalog.Page
import RuntimeFlag.Proofs.Catalog.Records
import RuntimeFlag.Proofs.Json.Flaws
/-!
# A page is read as a whole or not at all

What may be wrong with a page, down to each value that is read of its resources. A page with a flaw
anywhere is not accepted, and of a page that is accepted no resource is left out.
-/
namespace RuntimeFlag.Catalog

open Json

def MetadataFlaw : Flaw := RecordFlaw [⟨"guid", false, TextFlaw⟩]

/-- What may be wrong with a resource, given what may be wrong with its entity. -/
def ResourceFlaw (entity : Flaw) : Flaw :=
  RecordFlaw [⟨"metadata", false, MetadataFlaw⟩, ⟨"entity", false, entity⟩]

def ApplicationFlaw : Flaw :=
  ResourceFlaw (RecordFlaw [⟨"name", false, TextFlaw⟩, ⟨"space_guid", false, TextFlaw⟩,
    ⟨"diego", true, OptionalFlaw FlagFlaw⟩])

def OrganizationFlaw : Flaw :=
  ResourceFlaw (RecordFlaw [⟨"name", true, OptionalFlaw TextFlaw⟩])

def SpaceFlaw : Flaw :=
  ResourceFlaw (RecordFlaw [⟨"name", false, TextFlaw⟩, ⟨"organization_guid", false, TextFlaw⟩,
    ⟨"organization", true, OptionalFlaw OrganizationFlaw⟩])

/-- What may be wrong with a resource of a collection. -/
def RecordFlawOf : Collection → Flaw
  | .apps => ApplicationFlaw
  | .spaces => SpaceFlaw
  | .organizations => OrganizationFlaw

/-- The fields of a page, given what may be wrong with a resource. -/
def pageFields (record : Flaw) : List Field :=
  [⟨"next_url", true, OptionalFlaw TextFlaw⟩, ⟨"resources", false, ListFlaw record⟩]

def PageFlaw (record : Flaw) : Flaw := RecordFlaw (pageFields record)

/-! ## Records -/

theorem Layout.judges {α δ : Type} {decoder : Decoder α} (layout : Layout decoder δ)
    {fields : List Field} (h : layout.shape.Judges fields) : decoder.Judges (RecordFlaw fields) := by
  rw [layout.reads]
  exact h.judges_decoder

private theorem judges_metadata : metadata.Judges MetadataFlaw := by
  refine metadataLayout.judges ⟨metadataLayout.orderly, ?_, ?_, ?_⟩
  · exact .cons (Slot.judges_ofField Decoder.judges_text) .nil
  · exact List.forall_mem_singleton.mpr rfl
  · rintro (_ | guid) <;> simp [metadataLayout, needed, Slot.ofField]

private theorem judges_resource {ε : Type} {entity : Decoder ε} {flaw : Flaw} (hs : entity.Strict)
    (h : entity.Judges flaw) : (resource entity).Judges (ResourceFlaw flaw) := by
  refine (resourceLayout hs).judges ⟨(resourceLayout hs).orderly, ?_, ?_, ?_⟩
  · exact .cons (Slot.judges_ofField judges_metadata) (.cons (Slot.judges_ofField h) .nil)
  · simp [resourceLayout, Slot.ofField]
  · rintro ⟨_ | guid, _ | entity⟩ <;>
      simp [resourceLayout, needed, Slot.ofField, bind, Except.bind, pure, Except.pure]

private theorem judges_applicationEntity : applicationEntity.Judges
    (RecordFlaw [⟨"name", false, TextFlaw⟩, ⟨"space_guid", false, TextFlaw⟩,
      ⟨"diego", true, OptionalFlaw FlagFlaw⟩]) := by
  refine applicationEntityLayout.judges ⟨applicationEntityLayout.orderly, ?_, ?_, ?_⟩
  · exact .cons (Slot.judges_ofField Decoder.judges_text)
      (.cons (Slot.judges_ofField Decoder.judges_text)
        (.cons (Slot.judges_ofField Decoder.judges_flag.optional) .nil))
  · simp [applicationEntityLayout, Slot.ofField]
  · rintro ⟨_ | name, _ | guid, diego⟩ <;>
      simp [applicationEntityLayout, needed, Slot.ofField, bind, Except.bind, pure, Except.pure]

private theorem judges_organizationEntity : organizationEntity.Judges
    (RecordFlaw [⟨"name", true, OptionalFlaw TextFlaw⟩]) := by
  refine organizationEntityLayout.judges ⟨organizationEntityLayout.orderly, ?_, ?_, ?_⟩
  · exact .cons (Slot.judges_ofField Decoder.judges_text.optional) .nil
  · exact List.forall_mem_singleton.mpr rfl
  · simp [organizationEntityLayout, Slot.ofField, pure, Except.pure]

private theorem judges_organization : organization.Judges OrganizationFlaw :=
  (judges_resource organizationEntityLayout.strict judges_organizationEntity).map _

private theorem judges_spaceEntity : spaceEntity.Judges
    (RecordFlaw [⟨"name", false, TextFlaw⟩, ⟨"organization_guid", false, TextFlaw⟩,
      ⟨"organization", true, OptionalFlaw OrganizationFlaw⟩]) := by
  refine spaceEntityLayout.judges ⟨spaceEntityLayout.orderly, ?_, ?_, ?_⟩
  · exact .cons (Slot.judges_ofField Decoder.judges_text)
      (.cons (Slot.judges_ofField Decoder.judges_text)
        (.cons (Slot.judges_ofField judges_organization.optional) .nil))
  · simp [spaceEntityLayout, Slot.ofField]
  · rintro ⟨_ | name, _ | guid, organization⟩ <;>
      simp [spaceEntityLayout, needed, Slot.ofField, bind, Except.bind, pure, Except.pure]

theorem judges_decoder (collection : Collection) :
    collection.decoder.Judges (RecordFlawOf collection) := by
  cases collection with
  | apps => exact (judges_resource applicationEntityLayout.strict judges_applicationEntity).map _
  | spaces => exact (judges_resource spaceEntityLayout.strict judges_spaceEntity).map _
  | organizations => exact judges_organization

/-! ## Pages -/

private theorem pageLayout_judges {α : Type} {record : Decoder α} {flaw : Flaw} (hs : record.Strict)
    (h : record.Judges flaw) : (pageLayout hs).shape.Judges (pageFields flaw) := by
  refine ⟨(pageLayout hs).orderly, ?_, ?_, ?_⟩
  · exact .cons (Slot.judges_ofField Decoder.judges_text.optional)
      (.cons (Slot.judges_ofField h.list) .nil)
  · simp [pageLayout, Slot.ofField]
  · rintro ⟨next, _ | records⟩ <;>
      simp [pageLayout, needed, Slot.ofField, bind, Except.bind, pure, Except.pure]

private theorem records_of_page {α : Type} {record : Decoder α} {flaw : Flaw} (hs : record.Strict)
    (h : record.Judges flaw) {doc : Doc} {read : Page α} (hw : doc.skipFault? = none)
    (hread : page record doc = .ok read) :
    ∃ members, doc.members? ["next_url", "resources"] = some members ∧
      (∃ value, (.ok "resources", value) ∈ members) ∧
      ∀ value, (.ok "resources", value) ∈ members → ∃ items, value = .list items .closed ∧
        List.Forall₂ (fun item r => record item = .ok r) items read.records := by
  have hpage := pageLayout_judges hs h
  obtain ⟨members, last, hmembers, hfills, hbuild⟩ := (hpage.decoder_eq_ok hw).mp hread
  obtain ⟨records, hneeded, hpure⟩ := bind_eq_ok.mp hbuild
  have hlast : last.records = some records := by
    cases hrecords : last.records with
    | none => simp [hrecords, needed] at hneeded
    | some given => simpa [hrecords, needed] using hneeded
  have hresources : _ ∈ (pageLayout hs).shape.slots := List.mem_cons_of_mem _ List.mem_cons_self
  cases hpure
  refine ⟨members, hmembers, ?_, fun value hm => ?_⟩
  · rcases (hfills.filled_iff hpage.orderly hresources).mp (by simp [Slot.ofField, hlast]) with
      hempty | hgiven
    · cases hempty
    · exact hgiven
  · obtain ⟨mid, hslot⟩ := hfills.exists_read hpage.orderly hresources hm
    obtain ⟨given, hgiven, rfl⟩ := map_eq_ok.mp hslot
    cases hlast
    exact Decoder.list_eq_ok.mp hgiven

/-- Of the texts that spell documents, those are no pages that have a flaw, wherever it is; and of a
page that is accepted, every resource becomes one record. -/
theorem decodePage_whole (collection : Collection) {doc : Doc} {body : Bytes}
    (h : doc.Spelling body) :
    ((∃ why, decodePage collection.decoder body = .error (.invalidResponse why)) ↔
      PageFlaw (RecordFlawOf collection) doc) ∧
    ∀ read, decodePage collection.decoder body = .ok read →
      ∃ members, doc.members? ["next_url", "resources"] = some members ∧
        (∃ value, (.ok "resources", value) ∈ members) ∧
        ∀ value, (.ok "resources", value) ∈ members → ∃ items, value = .list items .closed ∧
          List.Forall₂ (fun item r => collection.decoder item = .ok r) items read.records := by
  have hs := strict_decoder collection
  have hrecord := judges_decoder collection
  have hw := (Doc.spelling_iff.mp h).2
  have hpage := (pageLayout hs).judges (pageLayout_judges hs hrecord) hw
  rw [← decode_of_spelling h (page collection.decoder)] at hpage
  constructor
  · rw [PageFlaw, ← not_iff_not, ← hpage]
    cases hdecode : decode (page collection.decoder) body with
    | ok read => simp [decodePage_eq_ok.mpr hdecode]
    | error fault => simp [decodePage_of_error hdecode]
  · intro read hread
    rw [decodePage_eq_ok, decode_of_spelling h] at hread
    exact records_of_page hs hrecord hw hread

/-- A resource of a space that describes its organization in place. -/
def describedSpace (guid name : String) (organization : Value) : Value :=
  writtenResource guid
    [("name", .text name), ("organization_guid", .text "o-1"), ("organization", organization)]

/-- An organization without its `metadata` in the second of two spaces. -/
theorem decodePage_whole_inner :
    let first := describedSpace "s-1" "dev" .null
    let bare := describedSpace "s-2" "prod" (.object [("entity", .object [])])
    let other := describedSpace "s-2" "prod" (writtenResource "o-1" [("name", .text "acme")])
    let page := writtenPage 2 none [first, bare]
    let whole := writtenPage 2 none [first, other]
    page.doc.Spelling (Utf8.encode page.compact) ∧ whole.doc.Spelling (Utf8.encode whole.compact) ∧
      PageFlaw (RecordFlawOf .spaces) page.doc ∧
      (∃ why, decodePage space (Utf8.encode page.compact) = .error (.invalidResponse why)) ∧
      decodePage space (Utf8.encode whole.compact) = .ok ⟨[⟨"s-1", "dev", "o-1", none⟩,
        ⟨"s-2", "prod", "o-1", some ⟨"o-1", "acme"⟩⟩], none⟩ ∧
      ¬ PageFlaw (RecordFlawOf .spaces) whole.doc := by
  intro first bare other page whole
  have hpage := spelling_compact page
  have hwhole := spelling_compact whole
  have horganization : OrganizationFlaw (Value.object [("entity", .object [])]).doc :=
    .members rfl (.missing List.mem_cons_self rfl (by simp [memberDocs]))
  have hspace : RecordFlawOf .spaces bare.doc :=
    .members rfl (.value (.tail _ (.head _)) (.tail _ (.head _)) (.members rfl
      (.value (.tail _ (.tail _ (.head _))) (.tail _ (.tail _ (.head _)))
        ⟨nofun, horganization⟩)))
  have hflaw : PageFlaw (RecordFlawOf .spaces) page.doc :=
    .members rfl (.value (.tail _ (.head _)) (.tail _ (.tail _ (.tail _ (.head _))))
      (.item (.tail _ (.head _)) hspace))
  have hread : decodePage space (Utf8.encode whole.compact) = .ok ⟨[⟨"s-1", "dev", "o-1", none⟩,
      ⟨"s-2", "prod", "o-1", some ⟨"o-1", "acme"⟩⟩], none⟩ := by
    rw [decodePage_eq_ok, decode_of_spelling hwhole]
    rfl
  refine ⟨hpage, hwhole, hflaw, (decodePage_whole .spaces hpage).1.mpr hflaw, hread, fun h => ?_⟩
  obtain ⟨why, herror⟩ := (decodePage_whole .spaces hwhole).1.mpr h
  cases hread.symm.trans herror

end RuntimeFlag.Catalog
