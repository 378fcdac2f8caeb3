import RuntimeFlag.Proofs.Catalog.Growth
/-!
# Every written page is read as its records

A page can be written in many ways: its objects may have members that the client does not know, in
any order with its own; an optional member may be left out or `null`; and the document has many
spellings. All of them are read as the records and the next page that were written.
-/
namespace RuntimeFlag

namespace Json

/-- Members with texts as keys. -/
def named (given : List (String × Doc)) : List (Key × Doc) :=
  given.map fun member => (.ok member.1, member.2)

/-- An object with the given members and others whose keys are none of the known names, all of them
in any order. -/
inductive Doc.HasMembers (known : List String) (given : List (String × Doc)) : Doc → Prop
  | mk {others members : List (Key × Doc)} (ho : ∀ member ∈ others, Foreign known member)
    (hp : (named given ++ others).Perm members) :
    HasMembers known given (.object members .closed)

/-- The members that an optional value is written as: none at all, or one that may be `null`. -/
inductive OptionalMember {α : Type} (name : String) (write : α → Doc → Prop) :
    Option α → List (String × Doc) → Prop
  | given {value : α} {doc : Doc} (h : write value doc) :
    OptionalMember name write (some value) [(name, doc)]
  | null : OptionalMember name write none [(name, .null)]
  | omitted : OptionalMember name write none []

def WritesText (s : String) (doc : Doc) : Prop := doc = .text (.ok s)

def WritesFlag (b : Bool) (doc : Doc) : Prop := doc = .flag b

variable {known : List String} {given : List (String × Doc)} {doc : Doc}

private theorem Doc.HasMembers.whole (h : doc.HasMembers known given) (hw : doc.skipFault? = none) :
    ∀ member ∈ given, member.2.skipFault? = none := by
  obtain ⟨-, hp⟩ := h
  intro member hm
  have hnamed : ((.ok member.1, member.2) : Key × Doc) ∈ named given :=
    List.mem_map.mpr ⟨member, hm, rfl⟩
  exact (Doc.skipFault?_object.mp hw).1 _ (hp.mem_iff.mp (List.mem_append_left _ hnamed))

private theorem Doc.HasMembers.grows {fields : List (String × Change)}
    (h : doc.HasMembers known given) (hk : known = fields.map Prod.fst) :
    Grows fields (.object (named given) .closed) doc := by
  obtain ⟨ho, hp⟩ := h
  exact .object (List.forall₂_same.mpr fun member _ => .same member) (hk ▸ ho) hp

private theorem Doc.hasMembers_refl (known : List String) (given : List (String × Doc)) :
    (Doc.object (named given) .closed).HasMembers known given := by
  have hp : (named given ++ []).Perm (named given) := by rw [List.append_nil]
  exact .mk (List.forall_mem_nil _) hp

/-- However an optional member is written behind others, it is read as its value, and a member that
is left out as none. -/
theorem OptionalMember.decodes {α β δ : Type} {name : String} {write : α → Doc → Prop}
    {value : Option α} {member : List (String × Doc)} (h : OptionalMember name write value member)
    (front : List (String × Doc)) {shape : Shape δ β} {decoder : Decoder α}
    {field : δ → Option (Option α)} {set : δ → Option α → δ} {draft : δ} {result : β}
    (hfront : Shape.Fills shape.slots (named front) shape.empty draft)
    (hslot : shape.slots.find? (·.name == name) =
      some (.ofField name true (.optional decoder) field set))
    (hfree : field draft = none)
    (hread : ∀ {value doc}, write value doc → doc.skipFault? = none →
      doc ≠ .null ∧ decoder doc = .ok value)
    (hw : ∀ m ∈ member, m.2.skipFault? = none) (hgiven : shape.build (set draft value) = .ok result)
    (hnone : value = none → shape.build draft = .ok result) :
    shape.decoder (.object (named (front ++ member)) .closed) = .ok result := by
  have hopen : (Slot.ofField name true (.optional decoder) field set).filled draft = false := by
    simp [Slot.ofField, hfree]
  have hnamed : named (front ++ member) = named front ++ named member := List.map_append
  rw [hnamed]
  cases h with
  | given h =>
    obtain ⟨hne, hvalue⟩ := hread h (hw _ List.mem_cons_self)
    have hoptional := Decoder.optional_eq_ok.mpr (.inr ⟨hne, _, hvalue, rfl⟩)
    have hlast := Shape.Fills.known hslot hopen (map_eq_ok.mpr ⟨_, hoptional, rfl⟩) (.nil _)
    exact Shape.decoder_object (hfront.append hlast) hgiven
  | null =>
    have hnull : (Slot.ofField name true (.optional decoder) field set).read .null draft =
        .ok (set draft none) := rfl
    have hlast := Shape.Fills.known hslot hopen hnull (.nil _)
    exact Shape.decoder_object (hfront.append hlast) hgiven
  | omitted => exact Shape.decoder_object (hfront.append (.nil _)) (hnone rfl)

private theorem WritesText.read {s : String} {doc : Doc} (h : WritesText s doc) :
    doc ≠ .null ∧ Decoder.text doc = .ok s := by
  obtain rfl : doc = .text (.ok s) := h
  exact ⟨fun h => (nomatch h), rfl⟩

private theorem WritesFlag.read {b : Bool} {doc : Doc} (h : WritesFlag b doc) :
    doc ≠ .null ∧ Decoder.flag doc = .ok b := by
  obtain rfl : doc = .flag b := h
  exact ⟨fun h => (nomatch h), rfl⟩

end Json

open Json

namespace Catalog

/-! ## How records are written -/

/-- The frame of a resource around its entity. -/
inductive WritesResource (guid : String) (entity : Doc → Prop) : Doc → Prop
  | mk {metadata content doc : Doc}
    (hm : metadata.HasMembers ["guid"] [("guid", .text (.ok guid))]) (he : entity content)
    (h : doc.HasMembers ["metadata", "entity"] [("metadata", metadata), ("entity", content)]) :
    WritesResource guid entity doc

/-- A flag that is false may be left out. -/
inductive WritesApplicationEntity (app : Application) : Doc → Prop
  | mk {flag : Option Bool} {diego : List (String × Doc)} {doc : Doc}
    (hf : flag.getD false = app.diego) (hd : OptionalMember "diego" WritesFlag flag diego)
    (h : doc.HasMembers ["name", "space_guid", "diego"]
      (("name", .text (.ok app.name)) :: ("space_guid", .text (.ok app.spaceGuid)) :: diego)) :
    WritesApplicationEntity app doc

/-- The name of an organization, as far as it is there. -/
inductive WritesOrganizationEntity (name : Option String) : Doc → Prop
  | mk {member : List (String × Doc)} {doc : Doc} (hm : OptionalMember "name" WritesText name member)
    (h : doc.HasMembers ["name"] member) : WritesOrganizationEntity name doc

/-- A name that is empty may be left out. -/
inductive WritesOrganization (organization : Organization) : Doc → Prop
  | mk {name : Option String} {doc : Doc} (hn : name.getD "" = organization.name)
    (h : WritesResource organization.guid (WritesOrganizationEntity name) doc) :
    WritesOrganization organization doc

inductive WritesSpaceEntity (space : Space) : Doc → Prop
  | mk {member : List (String × Doc)} {doc : Doc}
    (ho : OptionalMember "organization" WritesOrganization space.organization member)
    (h : doc.HasMembers ["name", "organization_guid", "organization"]
      (("name", .text (.ok space.name)) ::
        ("organization_guid", .text (.ok space.organizationGuid)) :: member)) :
    WritesSpaceEntity space doc

end Catalog

def Collection.Writes : (collection : Collection) → collection.Record → Doc → Prop
  | .apps, app => Catalog.WritesResource app.guid (Catalog.WritesApplicationEntity app)
  | .spaces, space => Catalog.WritesResource space.guid (Catalog.WritesSpaceEntity space)
  | .organizations, organization => Catalog.WritesOrganization organization

namespace Catalog

inductive WritesPage {α : Type} (record : α → Doc → Prop) (records : List α)
    (next : Option String) : Doc → Prop
  | mk {items : List Doc} {member : List (String × Doc)} {doc : Doc}
    (hr : List.Forall₂ record records items)
    (hn : OptionalMember "next_url" WritesText next member)
    (h : doc.HasMembers ["next_url", "resources"]
      (("resources", .list items .closed) :: member)) : WritesPage record records next doc

/-! ## Written records are read -/

private theorem metadata_writes {guid : String} {doc : Doc}
    (h : doc.HasMembers ["guid"] [("guid", .text (.ok guid))]) (hw : doc.skipFault? = none) :
    metadata doc = .ok guid :=
  metadata_isRecord.steady.respects (by rfl) (h.grows rfl) hw

private theorem resource_writes {ε : Type} {decoder : Decoder ε} {change : Change}
    (hd : decoder.Steady change) {write : Doc → Prop} {guid : String} {entity : ε}
    (hwrite : ∀ {doc}, write doc → doc.skipFault? = none → decoder doc = .ok entity) {doc : Doc}
    (h : WritesResource guid write doc) (hw : doc.skipFault? = none) :
    resource decoder doc = .ok ⟨guid, entity⟩ := by
  obtain ⟨hm, he, h⟩ := h
  have hwhole := h.whole hw
  simp only [List.forall_mem_cons] at hwhole
  have hmetadata := metadata_writes hm hwhole.1
  have hentity := hwrite he hwhole.2.1
  refine (resource_isRecord hd).steady.respects ?_ (h.grows rfl) hw
  exact Shape.decoder_object
    (.known rfl rfl (map_eq_ok.mpr ⟨guid, hmetadata, rfl⟩)
      (.known rfl rfl (map_eq_ok.mpr ⟨entity, hentity, rfl⟩) (.nil _))) rfl

private theorem applicationEntity_writes {app : Application} {doc : Doc}
    (h : WritesApplicationEntity app doc) (hw : doc.skipFault? = none) :
    applicationEntity doc = .ok (app.name, app.spaceGuid, app.diego) := by
  obtain ⟨hf, hd, h⟩ := h
  have hwhole := h.whole hw
  simp only [List.forall_mem_cons] at hwhole
  refine applicationEntity_isRecord.steady.respects ?_ (h.grows rfl) hw
  rw [← hf]
  refine hd.decodes [("name", .text (.ok app.name)), ("space_guid", .text (.ok app.spaceGuid))]
    (.known rfl rfl rfl (.known rfl rfl rfl (.nil _))) rfl rfl (fun h _ => h.read) hwhole.2.2 rfl ?_
  rintro rfl
  rfl

private theorem organizationEntity_writes {name : Option String} {doc : Doc}
    (h : WritesOrganizationEntity name doc) (hw : doc.skipFault? = none) :
    organizationEntity doc = .ok name := by
  obtain ⟨hm, h⟩ := h
  refine organizationEntity_isRecord.steady.respects ?_ (h.grows rfl) hw
  refine hm.decodes [] (.nil _) rfl rfl (fun h _ => h.read) (h.whole hw) rfl ?_
  rintro rfl
  rfl

private theorem organization_writes {organization : Organization} {doc : Doc}
    (h : WritesOrganization organization doc) (hw : doc.skipFault? = none) :
    Catalog.organization doc = .ok organization := by
  obtain ⟨hn, h⟩ := h
  have hresource := resource_writes organizationEntity_isRecord.steady
    organizationEntity_writes h hw
  exact map_eq_ok.mpr ⟨_, hresource, congrArg (Organization.mk organization.guid) hn⟩

private theorem spaceEntity_writes {space : Space} {doc : Doc} (h : WritesSpaceEntity space doc)
    (hw : doc.skipFault? = none) :
    spaceEntity doc = .ok (space.name, space.organizationGuid, space.organization) := by
  obtain ⟨ho, h⟩ := h
  have hwhole := h.whole hw
  simp only [List.forall_mem_cons] at hwhole
  refine spaceEntity_isRecord.steady.respects ?_ (h.grows rfl) hw
  refine ho.decodes
    [("name", .text (.ok space.name)), ("organization_guid", .text (.ok space.organizationGuid))]
    (.known rfl rfl rfl (.known rfl rfl rfl (.nil _))) rfl rfl
    (fun h hw => ⟨?_, organization_writes h hw⟩) hwhole.2.2 rfl fun hnone => ?_
  · rintro rfl
    obtain ⟨-, -, -, h⟩ := h
    cases h
  · rw [hnone]
    rfl

private theorem decoder_writes {collection : Collection} {record : collection.Record} {doc : Doc}
    (h : collection.Writes record doc) (hw : doc.skipFault? = none) :
    collection.decoder doc = .ok record := by
  cases collection with
  | apps =>
    have hresource := resource_writes applicationEntity_isRecord.steady
      applicationEntity_writes h hw
    exact map_eq_ok.mpr ⟨_, hresource, rfl⟩
  | spaces =>
    have hresource := resource_writes spaceEntity_isRecord.steady spaceEntity_writes h hw
    exact map_eq_ok.mpr ⟨_, hresource, rfl⟩
  | organizations => exact organization_writes h hw

section

variable {α : Type} {record : Decoder α} {write : α → Doc → Prop} {records : List α}
  (hwrite : ∀ {value doc}, write value doc → doc.skipFault? = none → record doc = .ok value)

include hwrite

private theorem list_writes {items : List Doc} (hr : List.Forall₂ write records items)
    (hw : ∀ item ∈ items, item.skipFault? = none) :
    Decoder.list record (.list items .closed) = .ok records := by
  refine Decoder.list_eq_ok.mpr ⟨items, rfl, ?_⟩
  induction hr with
  | nil => exact .nil
  | cons hvalue _ ih =>
    obtain ⟨hitem, hrest⟩ := List.forall_mem_cons.mp hw
    exact .cons (hwrite hvalue hitem) (ih hrest)

private theorem page_writes {change : Change} (hs : record.Steady change) {next : Option String}
    {doc : Doc} (h : WritesPage write records next doc) (hw : doc.skipFault? = none) :
    page record doc = .ok ⟨records, next.filter (· ≠ "")⟩ := by
  obtain @⟨items, member, _, hr, hn, h⟩ := h
  obtain ⟨hitems, hmember⟩ := List.forall_mem_cons.mp (h.whole hw)
  have hlist := list_writes hwrite hr (Doc.skipFault?_list.mp hitems).1
  refine (page_isRecord hs).steady.respects ?_ (h.grows rfl) hw
  refine hn.decodes [("resources", .list items .closed)]
    (.known rfl rfl (map_eq_ok.mpr ⟨records, hlist, rfl⟩) (.nil _)) rfl rfl (fun h _ => h.read)
    hmember rfl ?_
  rintro rfl
  rfl

end

/-! ## Every record can be written -/

def writtenOrganization (organization : Organization) : Value :=
  writtenResource organization.guid [("name", .text organization.name)]

def writtenSpace (space : Space) : Value :=
  writtenResource space.guid
    [("name", .text space.name), ("organization_guid", .text space.organizationGuid),
      ("organization", space.organization.elim .null writtenOrganization)]

private theorem writes_resource {guid : String} {entity : List (String × Value)}
    {write : Doc → Prop} (h : write (Value.object entity).doc) :
    WritesResource guid write (writtenResource guid entity).doc :=
  .mk (Doc.hasMembers_refl _ _) h (Doc.hasMembers_refl _ _)

private theorem writes_application (app : Application) :
    WritesResource app.guid (WritesApplicationEntity app) (writtenApplication app).doc := by
  have hd : OptionalMember "diego" WritesFlag (some app.diego) [("diego", .flag app.diego)] :=
    .given rfl
  exact writes_resource (.mk rfl hd (Doc.hasMembers_refl _ _))

private theorem writes_organization (organization : Organization) :
    WritesOrganization organization (writtenOrganization organization).doc := by
  have hm : OptionalMember "name" WritesText (some organization.name)
      [("name", .text (.ok organization.name))] := .given rfl
  exact .mk rfl (writes_resource (.mk hm (Doc.hasMembers_refl _ _)))

private theorem writes_space (space : Space) :
    WritesResource space.guid (WritesSpaceEntity space) (writtenSpace space).doc := by
  have ho : OptionalMember "organization" WritesOrganization space.organization
      [("organization", (space.organization.elim Value.null writtenOrganization).doc)] := by
    cases space.organization with
    | none => exact .null
    | some organization => exact .given (writes_organization organization)
  exact writes_resource (.mk ho (Doc.hasMembers_refl _ _))

private theorem exists_writes (collection : Collection) (record : collection.Record) :
    ∃ value : Value, collection.Writes record value.doc := by
  cases collection with
  | apps => exact ⟨_, writes_application record⟩
  | spaces => exact ⟨_, writes_space record⟩
  | organizations => exact ⟨_, writes_organization record⟩

private theorem exists_writesPage {α : Type} {write : α → Doc → Prop}
    (h : ∀ record, ∃ value : Value, write record value.doc) (records : List α)
    (next : Option String) : ∃ value : Value, WritesPage write records next value.doc := by
  choose value hvalue using h
  have hn : OptionalMember "next_url" WritesText next
      [("next_url", (next.elim Value.null .text).doc)] := by
    cases next with
    | none => exact .null
    | some url => exact .given rfl
  have hr : List.Forall₂ write records (itemDocs (records.map value)) := by
    rw [itemDocs_eq_map, List.map_map, List.forall₂_map_right_iff, List.forall₂_same]
    exact fun record _ => hvalue record
  exact ⟨.object [("resources", .list (records.map value)), ("next_url", next.elim .null .text)],
    .mk hr hn (Doc.hasMembers_refl _ _)⟩

/-- Every page can be written, and in whatever way it is written and spelled, it is read as its
records and the next page, when this has a name that is not empty. -/
theorem decodePage_writes (collection : Collection) (records : List collection.Record)
    (next : Option String) :
    (∃ (doc : Doc) (body : Bytes),
      WritesPage collection.Writes records next doc ∧ doc.Spelling body) ∧
      ∀ {doc : Doc} {body : Bytes}, WritesPage collection.Writes records next doc →
        doc.Spelling body →
        decodePage collection.decoder body = .ok ⟨records, next.filter (· ≠ "")⟩ := by
  constructor
  · obtain ⟨value, hvalue⟩ := exists_writesPage (exists_writes collection) records next
    exact ⟨value.doc, _, hvalue, spelling_compact value⟩
  · intro doc body hpage hbody
    refine decodePage_eq_ok.mpr ?_
    rw [decode_of_spelling hbody]
    exact page_writes decoder_writes (decoder_steady collection) hpage
      (Doc.spelling_iff.mp hbody).2

/-- A space whose texts have quotes, controls and characters of more than one byte, with its
organization in place. -/
def quotedSpace : Space := ⟨"s-1", "a \"b\"\n\x01é😀", "o\\1", some ⟨"o\\1", "\t"⟩⟩

/-- A page of this space, with another one after it. -/
def quotedPage : Value :=
  .object [("resources", .list [writtenSpace quotedSpace]), ("next_url", .text "/v2/spaces?page=2")]

theorem decodePage_writes_quoted :
    WritesPage Collection.spaces.Writes [quotedSpace] (some "/v2/spaces?page=2") quotedPage.doc ∧
      quotedPage.doc.Spelling (Utf8.encode quotedPage.compact) ∧
      decodePage Collection.spaces.decoder (Utf8.encode quotedPage.compact) =
        .ok ⟨[quotedSpace], some "/v2/spaces?page=2"⟩ := by
  have hn : OptionalMember "next_url" WritesText (some "/v2/spaces?page=2")
      [("next_url", .text (.ok "/v2/spaces?page=2"))] := .given rfl
  have hpage : WritesPage Collection.spaces.Writes [quotedSpace] (some "/v2/spaces?page=2")
      quotedPage.doc := .mk (.cons (writes_space quotedSpace) .nil) hn (Doc.hasMembers_refl _ _)
  have hbody := spelling_compact quotedPage
  exact ⟨hpage, hbody, (decodePage_writes .spaces _ _).2 hpage hbody⟩

end Catalog

end RuntimeFlag
