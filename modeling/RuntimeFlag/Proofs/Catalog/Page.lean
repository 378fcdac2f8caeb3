import RuntimeFlag.Catalog.Page
import RuntimeFlag.Proofs.Json.Accepted
import RuntimeFlag.Proofs.Json.Written
/-!
# Written pages are decoded as their records

The control plane writes a page as an object with the number of all records, the pages before and
after it, and its resources. Of these the decoder keeps the next page and the records.
-/
namespace RuntimeFlag.Catalog

open Json

def writtenResource (guid : String) (entity : List (String × Value)) : Value :=
  .object [("metadata", .object [("guid", .text guid)]), ("entity", .object entity)]

def writtenApplication (app : Application) : Value :=
  writtenResource app.guid
    [("name", .text app.name), ("space_guid", .text app.spaceGuid), ("diego", .flag app.diego)]

def writtenPage (total : Nat) (next : Option String) (resources : List Value) : Value :=
  .object [("total_results", .integer total), ("prev_url", .null),
    ("next_url", next.elim .null .text), ("resources", .list resources)]

theorem application_written (app : Application) :
    application (writtenApplication app).doc = .ok app :=
  rfl

theorem decodePage_eq_ok {α : Type} {record : Decoder α} {body : Bytes} {read : Page α} :
    decodePage record body = .ok read ↔ decode (page record) body = .ok read := by
  unfold decodePage
  split
  · next page h =>
    rw [h]
    constructor <;> rintro ⟨⟩ <;> rfl
  · next fault h =>
    rw [h]
    constructor <;> rintro ⟨⟩

theorem decodePage_of_error {α : Type} {record : Decoder α} {body : Bytes} {fault : Fault}
    (h : decode (page record) body = .error fault) :
    decodePage record body =
      .error (.invalidResponse ("Failed to parse page: " ++ fault.message)) := by
  rw [decodePage, h]

theorem decodePage_written {α : Type} {record : Decoder α} {write : α → Value} (records : List α)
    (h : ∀ r ∈ records, record (write r).doc = .ok r) (total : Nat) (next : Option String) :
    decodePage record (Utf8.encode (writtenPage total next (records.map write)).compact) =
      .ok ⟨records, next.filter (· ≠ "")⟩ := by
  have hlist := Decoder.list_written h
  have hnext : Decoder.optional .text (next.elim Value.null .text).doc = .ok next := by
    cases next <;> rfl
  have htotal := skipFault?_doc (.integer total)
  refine decodePage_eq_ok.mpr ?_
  rw [decode_of_spelling (spelling_compact _)]
  exact Shape.decoder_object
    (.unknown rfl htotal (.unknown rfl rfl
      (.known rfl rfl (map_eq_ok.mpr ⟨next, hnext, rfl⟩)
        (.known rfl rfl (map_eq_ok.mpr ⟨records, hlist, rfl⟩) (.nil _))))) rfl

end RuntimeFlag.Catalog
