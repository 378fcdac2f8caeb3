import RuntimeFlag.Proofs.Catalog.Page
import RuntimeFlag.Proofs.Collection
import RuntimeFlag.Proofs.Confinement
import RuntimeFlag.Proofs.Lookup
/-!
# A look-up reads one page

A look-up by name and a walk of the same collection agree when the first application with the name
is on the first page. When it is on a later page, the walk has it and the look-up finds nothing.
-/
namespace RuntimeFlag

/-- The application is the first one of a list that has the name. -/
def FirstNamed (name : String) (apps : List Application) (app : Application) : Prop :=
  ∃ before behind, apps = before ++ app :: behind ∧ app.name = name ∧
    ∀ other ∈ before, other.name ≠ name

theorem firstNamed_iff {name : String} {apps : List Application} {app : Application} :
    FirstNamed name apps app ↔ apps.find? (·.name == name) = some app := by
  rw [List.find?_eq_some_iff_append]
  constructor
  · rintro ⟨before, behind, rfl, hname, hb⟩
    exact ⟨beq_iff_eq.mpr hname, before, behind, rfl, fun other ho => by simpa using hb other ho⟩
  · rintro ⟨hname, before, behind, rfl, hb⟩
    exact ⟨before, behind, rfl, beq_iff_eq.mp hname, fun other ho => by simpa using hb other ho⟩

private theorem FirstNamed.unique {name : String} {apps : List Application}
    {app other : Application} (h : FirstNamed name apps app) (ho : FirstNamed name apps other) :
    other = app :=
  Option.some.inj ((firstNamed_iff.mp ho).symm.trans (firstNamed_iff.mp h))

private theorem FirstNamed.append {name : String} {apps : List Application} {app : Application}
    (h : FirstNamed name apps app) (others : List Application) :
    FirstNamed name (apps ++ others) app := by
  obtain ⟨before, behind, rfl, hname, hb⟩ := h
  exact ⟨before, behind ++ others, by simp, hname, hb⟩

theorem FirstNamed.mem {name : String} {apps : List Application} {app : Application}
    (h : FirstNamed name apps app) : app ∈ apps ∧ app.name = name := by
  obtain ⟨before, behind, rfl, hname, -⟩ := h
  exact ⟨by simp, hname⟩

theorem firstNamed_or_none (name : String) (apps : List Application) :
    (∃ app, FirstNamed name apps app) ∨ ∀ app ∈ apps, app.name ≠ name := by
  cases hfind : apps.find? (·.name == name) with
  | some app => exact .inl ⟨app, firstNamed_iff.mpr hfind⟩
  | none =>
    rw [List.find?_eq_none] at hfind
    exact .inr fun app ha => by simpa using hfind app ha

namespace AppSummary

/-- The summary finds an application exactly when one of the list has the name, and tells the guid
and the flag of the first one. -/
structure AgreesWith (summary : AppSummary) (name : String) (apps : List Application) : Prop where
  found_iff : summary.isFound = true ↔ ∃ app ∈ apps, app.name = name
  first : ∀ app, FirstNamed name apps app → summary.guid = app.guid ∧ summary.diego = app.diego

end AppSummary

namespace Client

open Dialogue

variable {client : Client} {value name : String}

/-- The walk of all pages of the applications with a name. -/
def lookupWalk (client : Client) (value name : String) : Walk Application :=
  (client.lookupQuery name).walk value Catalog.application

private theorem summaryOf_of_firstNamed {apps : List Application} {app : Application}
    (h : FirstNamed name apps app) : summaryOf name apps = app.summary := by
  obtain ⟨before, behind, rfl, hname, hb⟩ := h
  exact Toggle.summaryOf_of_first hname hb

private theorem agreesWith_summaryOf_iff (name : String) (head tail : List Application) :
    (summaryOf name head).AgreesWith name (head ++ tail) ↔
      (∀ app ∈ head ++ tail, app.name ≠ name) ∨
        ∃ app, FirstNamed name head app ∧ app.guid ≠ "" := by
  rcases firstNamed_or_none name head with ⟨app, hf⟩ | hnone
  · have hall := hf.append tail
    have hmem := hall.mem
    rw [summaryOf_of_firstNamed hf]
    constructor
    · intro h
      have hguid : app.guid ≠ "" := of_decide_eq_true (h.found_iff.mpr ⟨app, hmem⟩)
      exact .inr ⟨app, hf, hguid⟩
    · rintro (h | ⟨other, ho, hg⟩)
      · exact (h app hmem.1 hmem.2).elim
      · obtain rfl := hf.unique ho
        refine ⟨⟨fun _ => ⟨other, hmem⟩, fun _ => decide_eq_true hg⟩, fun first hfirst => ?_⟩
        obtain rfl := hall.unique hfirst
        exact ⟨rfl, rfl⟩
  · rw [Toggle.summaryOf_of_none hnone]
    constructor
    · intro h
      refine .inl fun app ha hname => ?_
      cases h.found_iff.mpr ⟨app, ha, hname⟩
    · rintro (h | ⟨app, hf, -⟩)
      · refine ⟨⟨fun hfound => (nomatch hfound), fun ⟨app, ha, hname⟩ => (h app ha hname).elim⟩, ?_⟩
        intro app hf
        exact (h app hf.mem.1 hf.mem.2).elim
      · exact (hnone app hf.mem.1 hf.mem.2).elim

/-- A look-up whose answer is a page summarizes the applications of the page. -/
theorem findApplication_of_lists {plain : Request} {wire : List Outcome} {apps : List Application}
    (hv : client.settings.credential = .ok value)
    (hr : (client.lookupQuery name).request .first = .ok plain)
    (h : Toggle.Lists (answer wire 0) apps) :
    Runs (client.findApplication name) wire (.ok (summaryOf name apps))
      [plain.withCredential value] "" wire.tail := by
  obtain ⟨body, page, hbody, hread, rfl⟩ := h
  have hfind := findApplication_runs hv hr wire
  rw [hbody, Except.bind, hread] at hfind
  exact hfind

/-- Where a walk of the applications with a name succeeds, the look-up reads the first page of the
walk. It agrees with the walk exactly when no page has the name, or the first one has it with a
guid. -/
theorem findApplication_of_gives {wire rest : List Outcome} {apps : List Application}
    {sent : List Request} (hv : client.settings.credential = .ok value)
    (h : (client.lookupWalk value name).Gives wire apps sent rest) :
    ∃ head tail, apps = head ++ tail ∧ Toggle.Lists (answer wire 0) head ∧
      (client.findApplication name wire).result = .ok (summaryOf name head) ∧
      (client.findApplication name wire).requests = sent.take 1 ∧
      ((summaryOf name head).AgreesWith name apps ↔
        (∀ app ∈ apps, app.name ≠ name) ∨ ∃ app, FirstNamed name head app ∧ app.guid ≠ "") := by
  obtain ⟨names, visits, hw, rfl, rfl, rfl⟩ := h
  cases visits with
  | nil => cases hw.cursors
  | cons visit visits =>
    obtain ⟨hcursor, -⟩ := hw.uncons
    obtain ⟨plain, hplain, hrequest⟩ := map_eq_ok.mp (hcursor ▸ visit.built)
    have hlists : Toggle.Lists (answer (Walk.answers (visit :: visits) ++ rest) 0)
        visit.page.records := ⟨visit.body, visit.page, rfl, mapError_eq_ok.mp visit.read, rfl⟩
    have hfind := findApplication_of_lists hv hplain hlists
    refine ⟨visit.page.records, visits.flatMap (·.page.records), rfl, hlists, hfind.result, ?_,
      agreesWith_summaryOf_iff name _ _⟩
    rw [hfind.requests, hrequest]
    rfl

/-- Two applications whose names differ in case only. -/
def upper : Application := ⟨"a", "WEB", "s", false⟩

def lower : Application := ⟨"b", "web", "s", true⟩

/-- A page with the first of the two, which names the page with the second. -/
def upperPage : Bytes :=
  Utf8.encode (Catalog.writtenPage 2 (some "/v2/apps?page=2")
    ([upper].map Catalog.writtenApplication)).compact

def lowerPage : Bytes :=
  Utf8.encode (Catalog.writtenPage 2 none ([lower].map Catalog.writtenApplication)).compact

theorem decodePage_upperPage : Catalog.decodePage Catalog.application upperPage =
    .ok ⟨[upper], some "/v2/apps?page=2"⟩ :=
  Catalog.decodePage_written [upper] (fun app _ => Catalog.application_written app) 2 _

theorem decodePage_lowerPage : Catalog.decodePage Catalog.application lowerPage =
    .ok ⟨[lower], none⟩ :=
  Catalog.decodePage_written [lower] (fun app _ => Catalog.application_written app) 2 none

private theorem lists_upperPage (rest : List Outcome) :
    Toggle.Lists (answer (.ok upperPage :: rest) 0) [upper] :=
  ⟨_, _, rfl, decodePage_upperPage, rfl⟩

theorem lookupQuery_request (name : String) :
    ∃ plain, (loopback.lookupQuery name).request .first = .ok plain := by
  have hb : (loopback.lookupQuery name).base.IsEndpoint :=
    ⟨(by decide : loopback.base.IsWeb), ⟨_, rfl⟩, _, rfl⟩
  obtain ⟨url, hurl, -⟩ := (loopback.lookupQuery name).firstUrl_spec hb
  exact ⟨_, congrArg (Except.map _) hurl⟩

/-- The URL of the page that the first one names. -/
def lowerUrl : Url :=
  { loopback.base with
    path := .segments ["v2".toList, "apps".toList]
    query := some "page=2".toList }

theorem nextUrl_lowerUrl (name : String) :
    (loopback.lookupQuery name).nextUrl "/v2/apps?page=2" = .ok lowerUrl := by
  have hbase : (loopback.lookupQuery name).base = loopback.base := rfl
  have hjoin : loopback.base.join "/v2/apps?page=2" = .ok lowerUrl := by decide +kernel
  have hsame : lowerUrl.sameOrigin loopback.base = true := by decide +kernel
  rw [Query.nextUrl, hbase, hjoin]
  simp only [hsame, if_true]

/-- The walk of the two pages, whichever name is asked for: the answers do not depend on it. -/
theorem lookupWalk_gives (name : String) :
    ∃ sent, (loopback.lookupWalk "bearer abc" name).Gives [.ok upperPage, .ok lowerPage]
      [upper, lower] sent [] := by
  obtain ⟨plain, hplain⟩ := lookupQuery_request name
  have hfirst : (loopback.lookupWalk "bearer abc" name).request .first =
      .ok (plain.withCredential "bearer abc") :=
    congrArg (Except.map _) hplain
  have hnext : (loopback.lookupWalk "bearer abc" name).request (.next "/v2/apps?page=2") =
      .ok ⟨.fetch, lowerUrl, some "bearer abc"⟩ :=
    Query.request_walk_next "bearer abc" Catalog.application (nextUrl_lowerUrl name)
  have hupper : (loopback.lookupWalk "bearer abc" name).parse upperPage =
      .ok ⟨[upper], some "/v2/apps?page=2"⟩ :=
    Query.parse_walk (loopback.lookupQuery name) "bearer abc" decodePage_upperPage
  have hlower : (loopback.lookupWalk "bearer abc" name).parse lowerPage = .ok ⟨[lower], none⟩ :=
    Query.parse_walk (loopback.lookupQuery name) "bearer abc" decodePage_lowerPage
  exact ⟨_, Walk.gives_two hfirst hupper rfl hnext hlower rfl⟩

/-- A look-up that agrees with the walk, because the first page has the name. -/
theorem findApplication_of_gives_upper :
    loopback.settings.credential = .ok "bearer abc" ∧
    (∃ sent, (loopback.lookupWalk "bearer abc" "WEB").Gives [.ok upperPage, .ok lowerPage]
      [upper, lower] sent []) ∧
    ∃ head, Toggle.Lists (.ok upperPage) head ∧
      (loopback.findApplication "WEB" [.ok upperPage, .ok lowerPage]).result =
        .ok (summaryOf "WEB" head) ∧
      (summaryOf "WEB" head).AgreesWith "WEB" [upper, lower] := by
  have hv : loopback.settings.credential = .ok "bearer abc" := by decide +kernel
  obtain ⟨sent, hgives⟩ := lookupWalk_gives "WEB"
  obtain ⟨head, tail, -, hlists, hresult, -, hiff⟩ := findApplication_of_gives hv hgives
  have hfirst : FirstNamed "WEB" head upper := by
    rw [(lists_upperPage _).unique hlists]
    exact ⟨[], [], rfl, rfl, fun _ h => nomatch h⟩
  exact ⟨hv, ⟨sent, hgives⟩, head, hlists, hresult, hiff.mpr (.inr ⟨_, hfirst, by decide⟩)⟩

/-- A look-up that finds nothing, although the walk of the same collection has the application on
its second page. -/
theorem findApplication_second_page :
    (∃ sent, (loopback.lookupWalk "bearer abc" "web").Gives [.ok upperPage, .ok lowerPage]
      [upper, lower] sent []) ∧
    FirstNamed "web" [upper, lower] lower ∧
    (loopback.findApplication "web" [.ok upperPage, .ok lowerPage]).result =
      .ok ⟨"", "web", false⟩ ∧
    ¬ (AppSummary.mk "" "web" false).AgreesWith "web" [upper, lower] := by
  have hfirst : FirstNamed "web" [upper, lower] lower := firstNamed_iff.mpr (by decide)
  have hv : loopback.settings.credential = .ok "bearer abc" := by decide +kernel
  obtain ⟨plain, hask⟩ := lookupQuery_request "web"
  have hfind := findApplication_of_lists hv hask (lists_upperPage [.ok lowerPage])
  have hnone : summaryOf "web" [upper] = ⟨"", "web", false⟩ := by decide
  rw [hnone] at hfind
  refine ⟨lookupWalk_gives "web", hfirst, hfind.result, fun h => ?_⟩
  cases h.found_iff.mpr ⟨_, hfirst.mem⟩

end Client

end RuntimeFlag
