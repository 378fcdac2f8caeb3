import RuntimeFlag.Catalog.Application
import RuntimeFlag.Catalog.Space
import RuntimeFlag.Failure
/-!
# Pages

The control plane gives a collection page by page; each page names the next one by its URL. An empty
name counts as none.
-/
namespace RuntimeFlag

structure Page (α : Type) where
  records : List α
  next : Option String
  deriving DecidableEq, Repr

namespace Catalog

open Json

structure PageDraft (α : Type) where
  next : Option (Option String)
  records : Option (List α)

/-- Reads a page, given how its records are read. -/
def page {α : Type} (record : Decoder α) : Decoder (Page α) :=
  Shape.decoder
    { title := "struct Envelope"
      empty := (⟨none, none⟩ : PageDraft α)
      slots :=
        [.ofField "next_url" true (.optional .text) (·.next) fun draft next =>
            { draft with next := some next },
          .ofField "resources" false (.list record) (·.records) fun draft records =>
            { draft with records := some records }]
      build := fun draft => do
        let records ← needed "resources" draft.records
        pure ⟨records, draft.next.join.filter (· ≠ "")⟩ }

def decodePage {α : Type} (record : Decoder α) (body : Bytes) : Except ApiFault (Page α) :=
  match decode (page record) body with
  | .ok page => .ok page
  | .error fault => .error (.invalidResponse ("Failed to parse page: " ++ fault.message))

end Catalog

end RuntimeFlag
