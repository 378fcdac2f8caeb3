import RuntimeFlag.Proofs.Catalog.Page
import RuntimeFlag.Proofs.Catalog.Records
import RuntimeFlag.Proofs.Json.Growth
/-!
# Pages are read for what the client knows

Every object of a page may hold members that the client does not know, with any values, and its
members may come in any order. What is read of the page stays the same.
-/
namespace RuntimeFlag

namespace Catalog

open Json

/-! ## What may be added -/

/-- A field whose value does not change. -/
def fixed (name : String) : String × Change := (name, Eq)

def MetadataGrows : Change := Grows [fixed "guid"]

/-- A resource, whose entity changes in a given way. -/
def ResourceGrows (entity : Change) : Change :=
  Grows [("metadata", MetadataGrows), ("entity", entity)]

def ApplicationGrows : Change :=
  ResourceGrows (Grows [fixed "name", fixed "space_guid", fixed "diego"])

def OrganizationGrows : Change := ResourceGrows (Grows [fixed "name"])

def SpaceGrows : Change :=
  ResourceGrows
    (Grows [fixed "name", fixed "organization_guid", ("organization", OrganizationGrows)])

def RecordGrows : Collection → Change
  | .apps => ApplicationGrows
  | .spaces => SpaceGrows
  | .organizations => OrganizationGrows

/-- A page whose records change in a given way. -/
def PageGrows (record : Change) : Change :=
  Grows [fixed "next_url", ("resources", GrowsItems record)]

/-! ## Records -/

theorem metadata_isRecord : metadata.IsRecord [fixed "guid"] :=
  .mk metadataLayout.shape metadataLayout.orderly
    (.cons (Slot.matches_ofField (Decoder.respects_eq _)) .nil)

theorem resource_isRecord {ε : Type} {entity : Decoder ε} {change : Change}
    (h : entity.Steady change) :
    (resource entity).IsRecord [("metadata", MetadataGrows), ("entity", change)] :=
  .mk (resourceLayout h.strict).shape (resourceLayout h.strict).orderly
    (.cons (Slot.matches_ofField metadata_isRecord.steady.respects)
      (.cons (Slot.matches_ofField h.respects) .nil))

theorem applicationEntity_isRecord :
    applicationEntity.IsRecord [fixed "name", fixed "space_guid", fixed "diego"] :=
  .mk applicationEntityLayout.shape applicationEntityLayout.orderly
    (.cons (Slot.matches_ofField (Decoder.respects_eq _))
      (.cons (Slot.matches_ofField (Decoder.respects_eq _))
        (.cons (Slot.matches_ofField (Decoder.respects_eq _)) .nil)))

theorem organizationEntity_isRecord : organizationEntity.IsRecord [fixed "name"] :=
  .mk organizationEntityLayout.shape organizationEntityLayout.orderly
    (.cons (Slot.matches_ofField (Decoder.respects_eq _)) .nil)

private theorem organization_steady : organization.Steady OrganizationGrows :=
  (resource_isRecord organizationEntity_isRecord.steady).steady.map _

theorem spaceEntity_isRecord : spaceEntity.IsRecord
    [fixed "name", fixed "organization_guid", ("organization", OrganizationGrows)] :=
  .mk spaceEntityLayout.shape spaceEntityLayout.orderly
    (.cons (Slot.matches_ofField (Decoder.respects_eq _))
      (.cons (Slot.matches_ofField (Decoder.respects_eq _))
        (.cons (Slot.matches_ofField organization_steady.optional.respects) .nil)))

theorem decoder_steady (collection : Collection) :
    collection.decoder.Steady (RecordGrows collection) := by
  cases collection with
  | apps => exact (resource_isRecord applicationEntity_isRecord.steady).steady.map _
  | spaces => exact (resource_isRecord spaceEntity_isRecord.steady).steady.map _
  | organizations => exact organization_steady

/-! ## Pages -/

theorem page_isRecord {α : Type} {record : Decoder α} {change : Change}
    (h : record.Steady change) :
    (page record).IsRecord [fixed "next_url", ("resources", GrowsItems change)] :=
  .mk (pageLayout h.strict).shape (pageLayout h.strict).orderly
    (.cons (Slot.matches_ofField (Decoder.respects_eq _))
      (.cons (Slot.matches_ofField h.respects.list) .nil))

/-- A page that is accepted is the spelling of a document, and every spelling of what this document
may become by growing is accepted with the same records and the same next page. -/
theorem decodePage_grows (collection : Collection) {body : Bytes} {read : Page collection.Record}
    (h : decodePage collection.decoder body = .ok read) :
    (∃ doc : Doc, doc.Spelling body) ∧
      ∀ {doc grown : Doc} {other : Bytes}, doc.Spelling body →
        PageGrows (RecordGrows collection) doc grown → grown.Spelling other →
        decodePage collection.decoder other = .ok read := by
  have hrecord := (page_isRecord (decoder_steady collection)).steady
  have hdecode := decodePage_eq_ok.mp h
  obtain ⟨doc, hspelling, -⟩ := (decode_eq_ok hrecord.strict).mp hdecode
  refine ⟨⟨doc, hspelling⟩, fun hdoc hgrows hother => ?_⟩
  rw [decode_of_spelling hdoc] at hdecode
  refine decodePage_eq_ok.mpr ?_
  rw [decode_of_spelling hother]
  exact hrecord.respects hdecode hgrows (Doc.spelling_iff.mp hother).2

/-- A page of one application, with nothing that the client does not know. -/
def barePage : Value :=
  .object [("next_url", .text "/v2/apps?page=2"), ("resources", .list [.object
    [("metadata", .object [("guid", .text "a-1")]),
      ("entity", .object [("name", .text "web"), ("space_guid", .text "s-1")])]])]

/-- A value with brackets in its texts and its keys. -/
def bracketed : Value :=
  .object [("]\x7d", .list [.list [.text "\"\x7b[\\", .null], .object [], .integer (-10)])]

/-- The same application, with other members everywhere and in another order. -/
def fullPage : Value :=
  .object [("total_results", .integer 1), ("resources", .list [.object
    [("entity", .object [("space_guid", .text "s-1"), ("routes", bracketed), ("name", .text "web")]),
      ("links", bracketed), ("metadata", .object [("url", .null), ("guid", .text "a-1")])]]),
    ("next_url", .text "/v2/apps?page=2")]

private theorem barePage_grows : PageGrows (RecordGrows .apps) barePage.doc fullPage.doc := by
  have foreign {names : List String} {name : String} {doc : Doc} (h : name ∉ names) :
      ∀ member ∈ [((.ok name, doc) : Key × Doc)], Foreign names member :=
    List.forall_mem_singleton.mpr ⟨name, rfl, h⟩
  have hmetadata : MetadataGrows (Value.object [("guid", .text "a-1")]).doc
      (Value.object [("url", .null), ("guid", .text "a-1")]).doc :=
    .object (.cons (.same _) .nil) (foreign (by decide)) (.swap _ _ _)
  have hentity : Grows [fixed "name", fixed "space_guid", fixed "diego"]
      (Value.object [("name", .text "web"), ("space_guid", .text "s-1")]).doc
      (Value.object [("space_guid", .text "s-1"), ("routes", bracketed),
        ("name", .text "web")]).doc :=
    .object (.cons (.same _) (.cons (.same _) .nil)) (foreign (by decide))
      (List.perm_append_singleton _ [_, _]).symm
  have hrecord : RecordGrows .apps
      (Value.object [("metadata", .object [("guid", .text "a-1")]),
        ("entity", .object [("name", .text "web"), ("space_guid", .text "s-1")])]).doc
      (Value.object [("entity", .object [("space_guid", .text "s-1"), ("routes", bracketed),
          ("name", .text "web")]), ("links", bracketed),
        ("metadata", .object [("url", .null), ("guid", .text "a-1")])]).doc :=
    .object (.cons (.field rfl hmetadata) (.cons (.field rfl hentity) .nil)) (foreign (by decide))
      (List.perm_append_singleton _ [_, _]).symm
  exact .object (.cons (.same _) (.cons (.field rfl (.list (.cons hrecord .nil))) .nil))
    (foreign (by decide)) (List.reverse_perm [_, _, _]).symm

theorem decodePage_grows_nested :
    decodePage application (Utf8.encode barePage.compact) =
        .ok ⟨[⟨"a-1", "web", "s-1", false⟩], some "/v2/apps?page=2"⟩ ∧
      barePage.doc.Spelling (Utf8.encode barePage.compact) ∧
      PageGrows (RecordGrows .apps) barePage.doc fullPage.doc ∧
      fullPage.doc.Spelling (Utf8.encode fullPage.compact) ∧
      decodePage application (Utf8.encode fullPage.compact) =
        .ok ⟨[⟨"a-1", "web", "s-1", false⟩], some "/v2/apps?page=2"⟩ := by
  have hbare : decodePage application (Utf8.encode barePage.compact) =
      .ok ⟨[⟨"a-1", "web", "s-1", false⟩], some "/v2/apps?page=2"⟩ := by
    decide +kernel
  have hdoc := spelling_compact barePage
  have hother := spelling_compact fullPage
  exact ⟨hbare, hdoc, barePage_grows, hother,
    (decodePage_grows .apps hbare).2 hdoc barePage_grows hother⟩

/-- A string without a text, half of a surrogate pair, is no key that can be skipped. -/
theorem decodePage_loneLead :
    let page := Utf8.encode "\x7b\"resources\":[]\x7d"
    let other := Utf8.encode "\x7b\"\\ud800\":null,\"resources\":[]\x7d"
    Doc.Spelling (.object [(.ok "resources", .list [] .closed)] .closed) page ∧
      Doc.Spelling (.object [(.error .unpairedSurrogate, .null),
        (.ok "resources", .list [] .closed)] .closed) other ∧
      decodePage application page = .ok ⟨[], none⟩ ∧
      decodePage application other =
        .error (.invalidResponse "Failed to parse page: unexpected end of hex escape") := by
  have hunit : IsUnit (Utf8.encode "d800") 0xD800 := ⟨by decide, by decide⟩
  have hlone : SpellsText (.error .unpairedSurrogate) (Utf8.encode "\"\\ud800\"") :=
    .fault (IsBody.nil.unit hunit) (TextScan.takes_isUnit rfl hunit) rfl
  have hkey : SpellsKey (.ok "resources") (Utf8.encode "\"resources\":") :=
    spellsKey_writeText "resources" .nil
  have hother := Spells.object (.nextMember (.firstMember .nil (.mk hlone .nil .nil) .null) .nil .nil
    hkey (.emptyList .nil)) .nil
  refine ⟨spelling_compact (.object [("resources", .list [])]), ⟨[], _, [], .nil, .nil, hother, ?_⟩,
    ?_, ?_⟩
  · decide +kernel
  · decide +kernel
  · decide +kernel

end Catalog

end RuntimeFlag
