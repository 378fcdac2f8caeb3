import RuntimeFlag.Listing.Document
import RuntimeFlag.Proofs.Catalog.Page
import RuntimeFlag.Proofs.Json.Pretty
import RuntimeFlag.Proofs.Program
import RuntimeFlag.Proofs.Rows
/-!
# Listings for programs

A program that asks for a listing as JSON gets one document and nothing else, and reads from it the
rows of the listing, in their order, and how many they are.
-/
namespace RuntimeFlag

/-! ## Reading one member -/

namespace Json

variable {α β : Type} {name : String} {decoder : Decoder β}

def Decoder.member (name : String) (decoder : Decoder β) : Decoder β :=
  Shape.decoder
    { title := "an object"
      empty := (none : Option β)
      slots := [.ofField name false decoder id fun _ value => some value]
      build := needed name }

/-- A natural number of 64 bits. -/
def Decoder.natural : Decoder Nat
  | .number (.ok (.natural n)) => .ok n
  | doc => wrongKind "a natural number" doc

private theorem fills_others {δ : Type} (slot : Slot δ) {members : List (String × Value)}
    (h : ∀ member ∈ members, member.1 ≠ slot.name) (draft : δ) :
    Shape.Fills [slot] (memberDocs members) draft draft := by
  rw [memberDocs_eq_map]
  have hslot : ∀ other ∈ [slot], other.name ∈ [slot.name] := by simp
  refine Shape.fills_foreign hslot ?_ ?_
  · rw [List.forall_mem_map]
    exact fun member hm => ⟨member.1, rfl, by simpa using h member hm⟩
  · rw [List.forall_mem_map]
    exact fun member _ => skipFault?_doc member.2

private theorem member_written (before behind : List (String × Value)) {value : Value} {b : β}
    (hb : ∀ member ∈ before, member.1 ≠ name) (hn : ∀ member ∈ behind, member.1 ≠ name)
    (h : decoder value.doc = .ok b) :
    Decoder.member name decoder (Value.object (before ++ (name, value) :: behind)).doc = .ok b := by
  rw [Value.doc, memberDocs_eq_map, List.map_append, List.map_cons, ← memberDocs_eq_map,
    ← memberDocs_eq_map]
  let slot : Slot (Option β) := .ofField name false decoder id fun _ value => some value
  have hname : [slot].find? (·.name == name) = some slot := by simp [slot, Slot.ofField]
  have hread : slot.read value.doc none = .ok (some b) := map_eq_ok.mpr ⟨b, h, rfl⟩
  have hfills := (fills_others slot hb none).append
    (.known hname rfl hread (fills_others slot hn (some b)))
  exact Shape.decoder_object hfills rfl

end Json

namespace Listing

open Json

def rowOf : Decoder Row := fun doc => do
  let name ← Decoder.member "name" .text doc
  let space ← Decoder.member "space" .text doc
  let organization ← Decoder.member "org" .text doc
  pure ⟨name, space, organization⟩

def rowsOf : Decoder (List Row) := .member "data" (.list rowOf)

/-- Reads a value that tells how many rows a document has. -/
def countOf {α : Type} (decoder : Decoder α) : Decoder α := .member "meta" (.member "count" decoder)

/-- The text is one document with these rows: they are read from its `data`, and its `meta.count` is
the numeral of how many they are, which is read as this number when it is one of 64 bits. -/
structure Documents (rows : List Row) (text : String) : Prop where
  spelling : ∃ doc : Doc, doc.Spelling (Utf8.encode text)
  data : decode rowsOf (Utf8.encode text) = .ok rows
  count : decode (countOf .ok) (Utf8.encode text) = .ok (Value.integer rows.length).doc
  number : rows.length < 0x10000000000000000 →
    decode (countOf .natural) (Utf8.encode text) = .ok rows.length

private theorem rowOf_written (row : Row) : rowOf (rowValue row).doc = .ok row :=
  rfl

private theorem rowsOf_written (timestamp : String) (rows : List Row) :
    rowsOf (value timestamp rows).doc = .ok rows := by
  refine member_written [] [_] (by simp) (by simp) ?_
  exact Decoder.list_written fun row _ => rowOf_written row

private theorem countOf_written {α : Type} {decoder : Decoder α} {rows : List Row} {count : α}
    (h : decoder (Value.integer rows.length).doc = .ok count) (timestamp : String) :
    countOf decoder (value timestamp rows).doc = .ok count := by
  refine member_written [("data", _)] [] (by simp) (by simp) ?_
  exact member_written [] [_, _] (by simp) (by simp) h

private theorem documents_document (timestamp : String) (rows : List Row) :
    Documents rows (document timestamp rows) := by
  have hspelling := spelling_pretty (value timestamp rows)
  constructor
  · exact ⟨_, hspelling⟩
  · rw [document, decode_of_spelling hspelling, rowsOf_written]
  · rw [document, decode_of_spelling hspelling, countOf_written rfl]
  · intro h
    have hcount : Decoder.natural (Value.integer rows.length).doc = .ok rows.length := by
      rw [doc_natural (Nat.le_sub_one_of_lt h)]
      rfl
    rw [document, decode_of_spelling hspelling, countOf_written hcount]

/-! ## Runs -/

open Dialogue

variable {client : Client} {runtime : Runtime} {wire : List Outcome}

private theorem rows_silent (client : Client) (runtime : Runtime) (wire : List Outcome) :
    (Listing.rows client runtime wire).output = "" := by
  cases hv : client.settings.credential with
  | error failure =>
    have hwalk : Fetches (client.listApplications runtime.flag) wire (.error failure) [] [] wire := by
      rw [Client.listApplications, Client.walk, hv]
      exact ⟨⟨rfl, rfl, rfl, rfl⟩, rfl⟩
    exact (hwalk.bind_error _).output
  | ok value =>
    obtain ⟨result, sent, warned, rest, hcourse⟩ := exists_course client value runtime wire
    exact (rows_fetches hv hcourse).output

/-- How a listing for a program goes: it prints nothing before the document. -/
theorem listApps_runs_json (palette : Palette) (timestamp : String) (client : Client)
    (runtime : Runtime) (wire : List Outcome) :
    let report := CommandLine.Command.listApps palette timestamp .json client runtime wire
    (∃ failure, report.result = .error failure ∧ report.output = "") ∨
      ∃ rows, (Listing.rows client runtime wire).result = .ok rows ∧ report.result = .ok () ∧
        report.output = Format.write .json timestamp rows ++ "\n" := by
  intro report
  let next (rows : List Row) : Dialogue Unit :=
    Dialogue.printLine (Format.write .json timestamp rows)
  have hreport : report = (Listing.rows client runtime >>= next) wire := rfl
  have hsilent := rows_silent client runtime wire
  rw [hreport]
  cases hrows : (Listing.rows client runtime wire).result with
  | error failure =>
    have hruns : Runs (Listing.rows client runtime) wire (.error failure) _ "" _ :=
      ⟨hrows, rfl, hsilent, rfl⟩
    have hfails := hruns.bind_error next
    exact .inl ⟨failure, hfails.result, hfails.output⟩
  | ok rows =>
    have hruns : Runs (Listing.rows client runtime) wire (.ok rows) _ "" _ :=
      ⟨hrows, rfl, hsilent, rfl⟩
    have hprints := hruns.bind (show Runs (next rows) _ _ _ _ _ from Runs.print _)
    exact .inr ⟨rows, rfl, hprints.result, hprints.output.trans String.empty_append⟩

private theorem perform_list_json {surroundings : Surroundings} {options : CommandLine.Options}
    (h : options.format = .json) (runtime : Runtime) (wire : List Outcome) :
    let report := (CommandLine.Command.list runtime).perform surroundings options wire
    (∃ failure, report.result = .error failure ∧ report.output = "") ∨
      ∃ client rows, Session.opened surroundings options = .ok client ∧
        (Listing.rows client runtime wire).result = .ok rows ∧ report.result = .ok () ∧
        report.output = Format.write .json surroundings.timestamp rows ++ "\n" := by
  intro report
  have hstart := Session.start_settles surroundings options
  let next (client : Client) := CommandLine.Command.listApps surroundings.environment.palette
    surroundings.timestamp .json client runtime
  have hreport : report = (Session.start surroundings options >>= next) wire := by
    simp only [report, next, CommandLine.Command.perform, h]
  rw [hreport]
  cases hopened : Session.opened surroundings options with
  | error failure =>
    rw [hopened] at hstart
    have hfails := (hstart wire).bind_error next
    exact .inl ⟨failure, hfails.result, hfails.output⟩
  | ok client =>
    rw [hopened] at hstart
    have hruns := hstart.runs_bind next wire
    rcases listApps_runs_json surroundings.environment.palette surroundings.timestamp client runtime
      wire with ⟨failure, hresult, houtput⟩ | ⟨rows, hrows, hresult, houtput⟩
    · exact .inl ⟨failure, hruns.result.trans hresult, hruns.output.trans houtput⟩
    · exact .inr ⟨client, rows, rfl, hrows, hruns.result.trans hresult, hruns.output.trans houtput⟩

/-- Every listing for a program is one document, from which its rows are read in their order and how
many they are. A run writes it with a line end to the channel for results when it succeeds, and
otherwise it writes nothing there. -/
theorem documents_of_run :
    (∀ timestamp rows, Documents rows (Format.write .json timestamp rows)) ∧
    ∀ surroundings args wire invocation runtime,
      CommandLine.parse surroundings.environment.options args = .ok invocation →
      invocation.command = .list runtime → invocation.options.format = .json →
      let outcome := Program.run surroundings args wire
      (outcome.exitCode ≠ 0 → outcome.text .output = "") ∧
      (outcome.exitCode = 0 → ∃ client rows,
        Session.opened surroundings invocation.options = .ok client ∧
        (Listing.rows client runtime wire).result = .ok rows ∧
        outcome.text .output = Format.write .json surroundings.timestamp rows ++ "\n") := by
  refine ⟨documents_document, ?_⟩
  intro surroundings args wire invocation runtime hparse hcommand hformat outcome
  obtain ⟨job, -, hrun⟩ := Program.run_of_accepted hparse wire
  rw [hcommand] at hrun
  have hcode : outcome.exitCode = 0 ↔
      ((CommandLine.Command.list runtime).perform surroundings invocation.options wire).result =
        .ok () := by
    rw [← Program.exitCode_eq_zero_iff]
    exact iff_of_eq (congrArg (·.exitCode = 0) hrun)
  have htext := (congrArg (·.text .output) hrun).trans (Program.Run.text_output job _)
  rcases perform_list_json hformat runtime wire with
    ⟨failure, hresult, houtput⟩ | ⟨client, rows, hopened, hrows, hresult, houtput⟩
  · exact ⟨fun _ => htext.trans houtput, fun h => nomatch hresult.symm.trans (hcode.mp h)⟩
  · exact ⟨fun h => (h (hcode.mpr hresult)).elim,
      fun _ => ⟨client, rows, hopened, hrows, htext.trans houtput⟩⟩

/-- A listing of an application whose name has to be escaped, and the same run without answers. -/
theorem documents_of_run_quoted :
    let args := ["diego-apps", "--format", "json", "--config", "good"].map Utf8.encode
    let apps : Value := .object
      [("resources", .list [Catalog.writtenApplication ⟨"a", "we\"b\n\\😀", "s", true⟩])]
    let spaces : Value := .object [("resources", .list [])]
    let wire : List Outcome := [.ok (Utf8.encode apps.compact), .ok (Utf8.encode spaces.compact)]
    let outcome := Program.run Program.twoSettings args wire
    let failed := Program.run Program.twoSettings args []
    (outcome.exitCode = 0 ∧ ∃ rows, rows.length = 1 ∧
      outcome.text .output = Format.write .json "" rows ++ "\n" ∧
      Documents rows (Format.write .json "" rows)) ∧
    failed.exitCode ≠ 0 ∧ failed.text .output = "" := by
  intro args apps spaces wire outcome failed
  have hparse : CommandLine.parse Program.twoSettings.environment.options args =
      .ok ⟨.list .diego, ⟨.json, some "good", none⟩, false⟩ := by
    decide +kernel
  obtain ⟨hdocuments, hruns⟩ := documents_of_run
  have hcode : outcome.exitCode = 0 := by decide +kernel
  have hfailed : failed.exitCode ≠ 0 := by decide +kernel
  have hquiet := (hruns Program.twoSettings args [] _ _ hparse rfl rfl).1 hfailed
  obtain ⟨client, rows, hopened, hrows, houtput⟩ :=
    (hruns Program.twoSettings args wire _ _ hparse rfl rfl).2 hcode
  have hlisted : ((Session.opened Program.twoSettings ⟨.json, some "good", none⟩).bind fun client =>
      (Listing.rows client .diego wire).result.map (·.length)) = .ok 1 := by
    decide +kernel
  have hlength : rows.length = 1 := by
    rw [hopened] at hlisted
    change (Listing.rows client .diego wire).result.map (·.length) = .ok 1 at hlisted
    rw [hrows] at hlisted
    exact Except.ok.inj hlisted
  exact ⟨⟨hcode, rows, hlength, houtput, hdocuments _ _⟩, hfailed, hquiet⟩

end Listing

end RuntimeFlag
