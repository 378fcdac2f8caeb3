import RuntimeFlag.Proofs.Catalog.Growth
import RuntimeFlag.Proofs.Json.Extent
/-!
# A page is neither cut nor continued

The body of a page ends with its last bracket. A body that was cut off, wherever that was, and a
body with something behind it are no pages.
-/
namespace RuntimeFlag.Catalog

open Json

/-- Of a body that is accepted, no part without its last byte that is no blank is accepted, and
neither is the body with more behind it than blanks. Blanks at the end make no difference. -/
theorem decodePage_extent (collection : Collection) {body : Bytes} {read : Page collection.Record}
    (h : decodePage collection.decoder body = .ok read) :
    (∀ front rest, body = front ++ rest →
      ((∃ b ∈ rest, isSpace b = false) →
        ∃ why, decodePage collection.decoder front = .error (.invalidResponse why)) ∧
      ((∀ b ∈ rest, isSpace b = true) → decodePage collection.decoder front = .ok read)) ∧
    ∀ more,
      ((∃ b ∈ more, isSpace b = false) → decodePage collection.decoder (body ++ more) =
        .error (.invalidResponse "Failed to parse page: trailing characters")) ∧
      ((∀ b ∈ more, isSpace b = true) →
        decodePage collection.decoder (body ++ more) = .ok read) := by
  have hpage := (page_isRecord (decoder_steady collection)).bracketed
  have hdecode := decodePage_eq_ok.mp h
  constructor
  · rintro front rest rfl
    constructor
    · intro hmore
      obtain ⟨fault, hfault⟩ := decode_of_cut hpage hdecode hmore
      exact ⟨_, decodePage_of_error hfault⟩
    · intro hblank
      exact decodePage_eq_ok.mpr (decode_of_append_blank hpage hdecode hblank)
  · intro more
    constructor
    · intro hmore
      exact decodePage_of_error (decode_append_of_more hpage hdecode hmore)
    · intro hblank
      exact decodePage_eq_ok.mpr (decode_append_of_blank hpage hdecode hblank)

/-- A page that is cut inside an escape, and one with a bracket too much. -/
theorem decodePage_extent_escape :
    let front := Utf8.encode "\x7b\"resources\":[],\"next_url\":\"/v2\\u00"
    let rest := Utf8.encode "41\"\x7d \n"
    let more := Utf8.encode "\n ]"
    decodePage application (front ++ rest) = .ok ⟨[], some "/v2A"⟩ ∧
      (∃ b ∈ rest, isSpace b = false) ∧ (∃ b ∈ more, isSpace b = false) ∧
      (∃ why, decodePage application front = .error (.invalidResponse why)) ∧
      decodePage application (front ++ rest ++ more) =
        .error (.invalidResponse "Failed to parse page: trailing characters") := by
  intro front rest more
  have hread : decodePage application (front ++ rest) = .ok ⟨[], some "/v2A"⟩ := by decide +kernel
  have hrest : ∃ b ∈ rest, isSpace b = false := by decide +kernel
  have hmore : ∃ b ∈ more, isSpace b = false := by decide +kernel
  obtain ⟨hcut, hlonger⟩ := decodePage_extent .apps hread
  exact ⟨hread, hrest, hmore, (hcut front rest rfl).1 hrest, (hlonger more).1 hmore⟩

end RuntimeFlag.Catalog
