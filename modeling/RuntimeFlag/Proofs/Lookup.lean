import RuntimeFlag.Proofs.Request
import RuntimeFlag.Proofs.Dialogue
import RuntimeFlag.Proofs.Result
import RuntimeFlag.Toggle
/-!
# Look-ups by name

A look-up asks once. It finds the first application of the answer that has the name, fails when
there is none or the guid of the first one is empty, and fails when there is no page to read.
-/
namespace RuntimeFlag

namespace Application

/-- What a look-up tells about an application. -/
def summary (app : Application) : AppSummary := ⟨app.guid, app.name, app.diego⟩

end Application

namespace Toggle

open Dialogue

/-! ## Answers -/

/-- The answer is a page with these applications. -/
def Lists (outcome : Outcome) (apps : List Application) : Prop :=
  ∃ body page, outcome = .ok body ∧ Catalog.decodePage Catalog.application body = .ok page ∧
    page.records = apps

/-- The application is the first one in the answer that has the name. -/
def First (name : String) (outcome : Outcome) (app : Application) : Prop :=
  ∃ before behind, Lists outcome (before ++ app :: behind) ∧ app.name = name ∧
    ∀ other ∈ before, other.name ≠ name

/-- The look-up finds the application. -/
structure Finds (name : String) (outcome : Outcome) (app : Application) : Prop where
  first : First name outcome app
  guid : app.guid ≠ ""

/-- The look-up gets a page, but finds no application there. -/
inductive Lacks (name : String) (outcome : Outcome) : Prop
  | absent {apps : List Application} (listed : Lists outcome apps)
    (none : ∀ app ∈ apps, app.name ≠ name)
  | blank {app : Application} (first : First name outcome app) (guid : app.guid = "")

/-- The look-up gets no page. -/
inductive Fails (outcome : Outcome) (fault : ApiFault) : Prop
  | unanswered (refused : outcome = .error fault)
  | unread {body : Bytes} (answered : outcome = .ok body)
    (unread : Catalog.decodePage Catalog.application body = .error fault)

/-- What a look-up makes of the answer to it. -/
def sought (name : String) (outcome : Outcome) : Except Failure AppSummary := do
  let page ← (outcome.bind (Catalog.decodePage Catalog.application)).mapError .api
  let summary := Client.summaryOf name page.records
  if summary.isFound then pure summary else throw (.appNotFound name)

theorem Lists.unique {outcome : Outcome} {apps others : List Application}
    (h : Lists outcome apps) (ho : Lists outcome others) : others = apps := by
  obtain ⟨body, page, rfl, hread, rfl⟩ := h
  obtain ⟨_, other, hbody, hother, rfl⟩ := ho
  cases hbody
  cases hread.symm.trans hother
  rfl

theorem Lists.finds {outcome : Outcome} {app : Application} (h : Lists outcome [app])
    (hg : app.guid ≠ "") : Finds app.name outcome app :=
  ⟨⟨[], [], h, rfl, fun _ ho => nomatch ho⟩, hg⟩

theorem summaryOf_of_first {name : String} {before behind : List Application} {app : Application}
    (h : app.name = name) (hb : ∀ other ∈ before, other.name ≠ name) :
    Client.summaryOf name (before ++ app :: behind) = app.summary := by
  have hfind : (before ++ app :: behind).find? (·.name == name) = some app := by
    rw [List.find?_eq_some_iff_append]
    refine ⟨beq_iff_eq.mpr h, before, behind, rfl, fun other ho => ?_⟩
    simpa using hb other ho
  rw [Client.summaryOf, hfind]
  rfl

theorem summaryOf_of_none {name : String} {apps : List Application}
    (h : ∀ app ∈ apps, app.name ≠ name) : Client.summaryOf name apps = ⟨"", name, false⟩ := by
  have hfind : apps.find? (·.name == name) = none := by
    rw [List.find?_eq_none]
    intro app ha
    simpa using h app ha
  rw [Client.summaryOf, hfind]

private theorem sought_of_lists {name : String} {outcome : Outcome} {apps : List Application}
    (h : Lists outcome apps) :
    sought name outcome =
      if (Client.summaryOf name apps).isFound then .ok (Client.summaryOf name apps)
      else .error (.appNotFound name) := by
  obtain ⟨body, page, rfl, hread, rfl⟩ := h
  rw [sought, Except.bind, hread]
  rfl

theorem sought_of_finds {name : String} {outcome : Outcome} {app : Application}
    (h : Finds name outcome app) : sought name outcome = .ok app.summary := by
  obtain ⟨⟨before, behind, hl, hn, hb⟩, hg⟩ := h
  have hfound : app.summary.isFound = true := decide_eq_true hg
  rw [sought_of_lists hl, summaryOf_of_first hn hb, if_pos hfound]

theorem sought_of_lacks {name : String} {outcome : Outcome} (h : Lacks name outcome) :
    sought name outcome = .error (.appNotFound name) := by
  cases h with
  | absent hl hn =>
    rw [sought_of_lists hl, summaryOf_of_none hn]
    rfl
  | blank hf hg =>
    obtain ⟨before, behind, hl, hn, hb⟩ := hf
    rw [sought_of_lists hl, summaryOf_of_first hn hb, AppSummary.isFound, Application.summary, hg]
    rfl

private theorem sought_of_fails {name : String} {outcome : Outcome} {fault : ApiFault}
    (h : Fails outcome fault) : sought name outcome = .error (.api fault) := by
  cases h with
  | unanswered h =>
    subst h
    rfl
  | unread ha hr =>
    subst ha
    rw [sought, Except.bind, hr]
    rfl

/-- Every answer is of one of the three kinds. -/
theorem finds_or_lacks_or_fails (name : String) (outcome : Outcome) :
    (∃ app, Finds name outcome app) ∨ Lacks name outcome ∨ ∃ fault, Fails outcome fault := by
  cases outcome with
  | error fault => exact .inr (.inr ⟨fault, .unanswered rfl⟩)
  | ok body =>
    cases hr : Catalog.decodePage Catalog.application body with
    | error fault => exact .inr (.inr ⟨fault, .unread rfl hr⟩)
    | ok page =>
      have hl : Lists (.ok body) page.records := ⟨body, page, rfl, hr, rfl⟩
      cases hfind : page.records.find? (·.name == name) with
      | none =>
        rw [List.find?_eq_none] at hfind
        exact .inr (.inl (.absent hl fun app ha => by simpa using hfind app ha))
      | some app =>
        obtain ⟨hname, before, behind, happs, hb⟩ := List.find?_eq_some_iff_append.mp hfind
        have hfirst : First name (.ok body) app :=
          ⟨before, behind, happs ▸ hl, beq_iff_eq.mp hname, fun other ho => by simpa using hb other ho⟩
        by_cases hg : app.guid = ""
        · exact .inr (.inl (.blank hfirst hg))
        · exact .inl ⟨app, hfirst, hg⟩

theorem sought_eq_ok {name : String} {outcome : Outcome} {summary : AppSummary} :
    sought name outcome = .ok summary ↔ ∃ app, Finds name outcome app ∧ app.summary = summary := by
  constructor
  · intro h
    rcases finds_or_lacks_or_fails name outcome with ⟨app, hf⟩ | hl | ⟨fault, hf⟩
    · exact ⟨app, hf, Except.ok.inj ((sought_of_finds hf).symm.trans h)⟩
    · cases (sought_of_lacks hl).symm.trans h
    · cases (sought_of_fails hf).symm.trans h
  · rintro ⟨app, hf, rfl⟩
    exact sought_of_finds hf

theorem sought_eq_error {name : String} {outcome : Outcome} {failure : Failure} :
    sought name outcome = .error failure ↔
      Lacks name outcome ∧ failure = .appNotFound name ∨
        ∃ fault, Fails outcome fault ∧ failure = .api fault := by
  constructor
  · intro h
    rcases finds_or_lacks_or_fails name outcome with ⟨app, hf⟩ | hl | ⟨fault, hf⟩
    · cases (sought_of_finds hf).symm.trans h
    · exact .inl ⟨hl, (Except.error.inj ((sought_of_lacks hl).symm.trans h)).symm⟩
    · exact .inr ⟨fault, hf, (Except.error.inj ((sought_of_fails hf).symm.trans h)).symm⟩
  · rintro (⟨hl, rfl⟩ | ⟨fault, hf, rfl⟩)
    · exact sought_of_lacks hl
    · exact sought_of_fails hf

theorem lacks_iff {name : String} {outcome : Outcome} :
    Lacks name outcome ↔ sought name outcome = .error (.appNotFound name) := by
  constructor
  · exact sought_of_lacks
  · intro h
    rcases sought_eq_error.mp h with ⟨hl, -⟩ | ⟨fault, -, h⟩
    · exact hl
    · cases h

theorem fails_iff (name : String) {outcome : Outcome} {fault : ApiFault} :
    Fails outcome fault ↔ sought name outcome = .error (.api fault) := by
  constructor
  · exact sought_of_fails
  · intro h
    rcases sought_eq_error.mp h with ⟨-, h⟩ | ⟨other, hf, h⟩
    · cases h
    · cases h
      exact hf

end Toggle

namespace Client

open Dialogue

variable {client : Client} {value : String}

/-- The path of the applications that a session sees: those of its space, or all. -/
def appsPath (client : Client) : String :=
  match client.settings.spaceGuid with
  | some guid => "/v2/spaces/" ++ guid ++ "/apps"
  | none => "/v2/apps"

/-- The request asks for the first page of the applications with a name. -/
structure Asks (client : Client) (value name : String) (request : Request) : Prop where
  method : request.method = "GET"
  body : request.body? = none
  url : ∃ page, urlForPath client.base client.appsPath = .ok page ∧
    request.url = page.appendPairs [("q", "name:" ++ name),
      ("results-per-page", Text.decimal client.settings.effectivePageSize)]
  headers : request.headers = [⟨"authorization", value, true⟩]

/-- The request changes the flag of the application with a guid. -/
structure Writes (client : Client) (value guid : String) (enabled : Bool) (request : Request) :
    Prop where
  method : request.method = "PUT"
  body : request.body? = some (.object [("diego", .flag enabled)])
  url : urlForPath client.base ("/v2/apps/" ++ guid) = .ok request.url
  headers : request.headers = [⟨"authorization", value, true⟩]

private theorem lookupQuery_path (client : Client) (name : String) :
    (client.lookupQuery name).path = client.appsPath := by
  rw [appsPath, Query.path]
  cases h : client.settings.spaceGuid <;> simp [lookupQuery, query, Query.all, h, Collection.path]

theorem asks_withCredential {name : String} {plain : Request}
    (h : (client.lookupQuery name).request .first = .ok plain) (value : String) :
    client.Asks value name (plain.withCredential value) := by
  obtain ⟨url, hurl, rfl⟩ := map_eq_ok.mp h
  obtain ⟨page, hpage, rfl⟩ := map_eq_ok.mp hurl
  rw [lookupQuery_path] at hpage
  exact ⟨rfl, rfl, ⟨page, hpage, rfl⟩, rfl⟩

theorem writes_withCredential {guid : String} {enabled : Bool} {plain : Request}
    (h : flagRequest client.base guid enabled = .ok plain) (value : String) :
    client.Writes value guid enabled (plain.withCredential value) := by
  obtain ⟨url, hurl, rfl⟩ := map_eq_ok.mp h
  exact ⟨rfl, rfl, hurl, rfl⟩

theorem findApplication_runs {name : String} {plain : Request}
    (hv : client.settings.credential = .ok value)
    (hr : (client.lookupQuery name).request .first = .ok plain) (wire : List Outcome) :
    Runs (client.findApplication name) wire
      ((((answer wire 0).bind (Catalog.decodePage Catalog.application)).mapError .api).map
        fun page => summaryOf name page.records) [plain.withCredential value] "" wire.tail := by
  refine Runs.ofExcept_bind hv (Runs.ofExcept_bind hr ?_)
  have hsend : Runs (Dialogue.send (plain.withCredential value)) wire _ _ _ _ := Runs.send _
  cases ha : answer wire 0 with
  | error fault =>
    rw [ha] at hsend
    exact hsend.bind_error _
  | ok body =>
    rw [ha] at hsend
    change Runs _ wire (((Catalog.decodePage Catalog.application body).mapError .api).map _) _ _ _
    refine hsend.bind (?_ : Runs _ wire.tail _ [] "" wire.tail)
    cases hread : Catalog.decodePage Catalog.application body with
    | error fault => exact Runs.fail _
    | ok page => exact Runs.ofExcept_bind rfl (Runs.log_seq (Runs.pure _))

theorem lookup_runs {name : String} {plain : Request}
    (hv : client.settings.credential = .ok value)
    (hr : (client.lookupQuery name).request .first = .ok plain) (wire : List Outcome) :
    Runs (Toggle.lookup client name) wire (Toggle.sought name (answer wire 0))
      [plain.withCredential value] "" wire.tail := by
  have hfind := findApplication_runs hv hr wire
  rw [Toggle.sought]
  cases hp : ((answer wire 0).bind (Catalog.decodePage Catalog.application)).mapError
      Failure.api with
  | error failure =>
    rw [hp] at hfind
    exact hfind.bind_error _
  | ok page =>
    rw [hp] at hfind
    refine hfind.bind (?_ : Runs _ wire.tail _ [] "" wire.tail)
    change Runs (if (summaryOf name page.records).isFound then _ else _) _
      (if (summaryOf name page.records).isFound then _ else _) _ _ _
    split
    · exact Runs.pure _
    · exact Runs.fail _

theorem setFlag_runs {guid : String} {enabled : Bool} {plain : Request}
    (hv : client.settings.credential = .ok value)
    (hr : flagRequest client.base guid enabled = .ok plain) (wire : List Outcome) :
    Runs (client.setFlag guid enabled) wire (((answer wire 0).mapError .api).map fun _ => ())
      [plain.withCredential value] "" wire.tail := by
  refine Runs.ofExcept_bind hv (Runs.ofExcept_bind hr (Runs.log_seq ?_))
  have hsend : Runs (Dialogue.send (plain.withCredential value)) wire _ _ _ _ := Runs.send _
  cases ha : answer wire 0 with
  | error fault =>
    rw [ha] at hsend
    exact hsend.bind_error _
  | ok body =>
    rw [ha] at hsend
    refine hsend.bind (?_ : Runs _ wire.tail _ [] "" wire.tail)
    exact Runs.pure ()

theorem exists_ask_of_lookup {name : String} {wire : List Outcome} {summary : AppSummary}
    (h : (Toggle.lookup client name wire).result = .ok summary) :
    ∃ value plain, client.settings.credential = .ok value ∧
      (client.lookupQuery name).request .first = .ok plain := by
  obtain ⟨found, hfind, -⟩ := exists_of_bind_ok h
  obtain ⟨value, hv, hfind⟩ := exists_of_bind_ok hfind
  obtain ⟨plain, hr, -⟩ := exists_of_bind_ok hfind
  exact ⟨value, plain, hv, hr⟩

theorem exists_write_of_setFlag {guid : String} {enabled : Bool} {wire : List Outcome}
    (h : (client.setFlag guid enabled wire).result = .ok ()) :
    ∃ plain, flagRequest client.base guid enabled = .ok plain := by
  obtain ⟨value, -, h⟩ := exists_of_bind_ok h
  obtain ⟨plain, hr, -⟩ := exists_of_bind_ok h
  exact ⟨plain, hr⟩

end Client

end RuntimeFlag
