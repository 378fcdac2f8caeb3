import RuntimeFlag.Catalog.Page
import RuntimeFlag.Dialogue
import RuntimeFlag.Text.Plain
/-!
# Walking a collection

A walk asks for the first page of a collection and then for every page that the last one names. It
gives all records in order, or fails as soon as a page cannot be had or a name comes back.
-/
namespace RuntimeFlag

/-- What a walk needs: how pages are asked for and read. -/
structure Walk (α : Type) where
  request : Cursor → Except Failure Request
  parse : Bytes → Except Failure (Page α)

namespace Walk

variable {α : Type}

def debug (text : String) : Event := .logged ⟨.debug, .walk, text⟩

def pageText (number : Nat) (page : Page α) : String :=
  "Page " ++ Text.decimal number ++ " returned " ++ Text.decimal page.records.length ++
    " records (more: " ++ Text.truth page.next.isSome ++ ")"

def doneText (records pages : Nat) : String :=
  "Fetched " ++ Text.decimal records ++ " records across " ++ Text.decimal pages ++ " pages"

/-- The failure of a walk that is led to a page by a name for the second time. -/
def loopFailure (next : String) : Failure :=
  .api (.invalidResponse ("pagination loop: next_url '" ++ next ++ "' was already fetched"))

/-- Walks on from a cursor, with the names seen, the records and the number of pages so far. -/
def go (walk : Walk α) (cursor : Cursor) (seen : List String) (records : List α)
    (pages : Nat) : Dialogue (List α)
  | [] =>
    match walk.request cursor with
    | .error failure => ⟨.error failure, [], []⟩
    | .ok request =>
      ⟨.error (.api silence), [debug ("GET " ++ request.url.text), .sent request], []⟩
  | outcome :: rest =>
    match walk.request cursor with
    | .error failure => ⟨.error failure, [], outcome :: rest⟩
    | .ok request =>
      let asked := [debug ("GET " ++ request.url.text), .sent request]
      match (outcome.mapError .api).bind walk.parse with
      | .error failure => ⟨.error failure, asked, rest⟩
      | .ok page =>
        let told := asked ++ [debug (pageText (pages + 1) page)]
        let all := records ++ page.records
        match page.next with
        | none => ⟨.ok all, told ++ [debug (doneText all.length (pages + 1))], rest⟩
        | some next =>
          if seen.contains next then ⟨.error (loopFailure next), told, rest⟩
          else (go walk (.next next) (next :: seen) all (pages + 1) rest).after told

def all (walk : Walk α) : Dialogue (List α) := go walk .first [] [] 0

end Walk

end RuntimeFlag
