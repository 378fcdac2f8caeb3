import RuntimeFlag.Proofs.Collection
import RuntimeFlag.Proofs.ControlPlane.Basic
import RuntimeFlag.Proofs.ControlPlane.Service
/-!
# Listing the applications of a faithful control plane

A listing asks for page after page until the control plane names no further one. What it has read
after some pages is the beginning of the applications with the flag, so at the end it has read each
of them once, by as many requests as there are pages.
-/
namespace RuntimeFlag

namespace PageAsk

private theorem pageName_injective {ask : PageAsk} {path : String} {i j : Nat}
    (h : ask.pageName path i = ask.pageName path j) : i = j := by
  have hchars := congrArg String.toList h
  simp only [pageName, String.toList_append] at hchars
  exact Text.decimal_injective (String.toList_inj.mp (List.append_cancel_left hchars))

private theorem records_page (filter : Filter) (size read : Nat) (path : String)
    (apps : List Application) :
    apps.take (read * size) ++ (page ⟨filter, size, read + 1⟩ path apps).records =
      apps.take ((read + 1) * size) := by
  rw [Nat.succ_mul, List.take_add]
  rfl

/-- The number of pages that a list takes: all but the last are full. -/
theorem pageCount_eq {count size read : Nat} (hsize : 0 < size)
    (hmore : read = 0 ∨ read * size < count) (hlast : count ≤ (read + 1) * size) :
    read + 1 = max 1 ((count + size - 1) / size) := by
  rcases Nat.eq_zero_or_pos count with rfl | hcount
  · have hread : read = 0 := hmore.elim id fun h => absurd h (Nat.not_lt_zero _)
    rw [hread, Nat.div_eq_of_lt (by omega)]
    rfl
  · have hfull : read * size < count := by
      rcases hmore with rfl | h
      · rwa [Nat.zero_mul]
      · exact h
    have hexpand : (read + 1 + 1) * size = (read + 1) * size + size := Nat.succ_mul _ _
    have hstep : (read + 1) * size = read * size + size := Nat.succ_mul _ _
    have hdiv : (count + size - 1) / size = read + 1 :=
      Nat.div_eq_of_lt_le (by omega) (by omega)
    rw [hdiv]
    omega

end PageAsk

/-- A client on the own machine that asks for pages of one record. -/
def Client.oneByOne : Client := ⟨{ Settings.loopback with pageSize := 0 }, Client.loopback.base⟩

namespace ControlPlane

open Dialogue

variable {plane : ControlPlane} {client : Client} {apps : List Application} {flag : Bool}

/-- The walk of all pages of the applications whose flag has a value. -/
def flagWalk (client : Client) (value : String) (flag : Bool) : Walk Application :=
  (Query.mk client.base .apps (some (.flag flag)) (some client.settings.effectivePageSize)
    none).walk value Catalog.application

/-- Where the walk stands after some pages. -/
def cursorAfter (flag : Bool) (size : Nat) : Nat → Cursor
  | 0 => .first
  | read + 1 => .next (PageAsk.pageName ⟨.flag flag, size, read + 1⟩ "/v2/apps" (read + 2))

private theorem Hosts.exists_visit (h : plane.Hosts client) (apps : List Application) (flag : Bool)
    (read : Nat) :
    ∃ visit : Walk.Visit (flagWalk client plane.credential flag),
      visit.cursor = cursorAfter flag client.settings.effectivePageSize read ∧
      visit.page = PageAsk.page ⟨.flag flag, client.settings.effectivePageSize, read + 1⟩ "/v2/apps"
        (apps.filter (Filter.flag flag).admits) ∧
      plane.respond apps visit.request = (.ok visit.body, apps) := by
  obtain ⟨plain, hplain, hrespond⟩ : ∃ plain,
      (Query.mk client.base .apps (some (.flag flag)) (some client.settings.effectivePageSize)
        none).request (cursorAfter flag client.settings.effectivePageSize read) = .ok plain ∧
      ∀ apps, plane.respond apps (plain.withCredential plane.credential) =
        (.ok (PageAsk.body ⟨.flag flag, client.settings.effectivePageSize, read + 1⟩ "/v2/apps"
          apps), apps) := by
    cases read with
    | zero =>
      exact respond_first h.endpoint h.address (.flag flag) client.settings.effectivePageSize
        none fun guid hg => nomatch hg
    | succ read =>
      exact respond_next h.endpoint h.address flag client.settings.effectivePageSize (read + 1)
        (read + 2) rfl
  have hbuilt : (flagWalk client plane.credential flag).request
      (cursorAfter flag client.settings.effectivePageSize read) =
        .ok (plain.withCredential plane.credential) := by
    simp only [flagWalk, Query.walk, hplain]
    rfl
  have hread := PageAsk.decodePage_body
    ⟨.flag flag, client.settings.effectivePageSize, read + 1⟩ "/v2/apps" apps
  have hparse : (flagWalk client plane.credential flag).parse
      (PageAsk.body ⟨.flag flag, client.settings.effectivePageSize, read + 1⟩ "/v2/apps" apps) =
        .ok (PageAsk.page ⟨.flag flag, client.settings.effectivePageSize, read + 1⟩ "/v2/apps"
          (apps.filter (Filter.flag flag).admits)) := by
    simp only [flagWalk, Query.walk, hread]
    rfl
  exact ⟨⟨_, _, _, _, hbuilt, hparse⟩, rfl, rfl, hrespond apps⟩

/-! ## Stages of a walk -/

section Stages

variable {walk : Walk Application} {size read limit : Nat} {found : List Application}
  {visits : List (Walk.Visit walk)} {visit : Walk.Visit walk}

/-- A walk has read some pages of a list, and the next one is still to be read. -/
structure Stage (flag : Bool) (size : Nat) (found : List Application) (read : Nat)
    (visits : List (Walk.Visit walk)) : Prop where
  begun : ∃ names, Walk.Begun .first names visits (cursorAfter flag size read) ∧
    ∀ name ∈ names, ∃ number < read + 2,
      name = PageAsk.pageName ⟨.flag flag, size, read + 1⟩ "/v2/apps" number
  length : visits.length = read
  records : visits.flatMap (·.page.records) = found.take (read * size)
  more : read = 0 ∨ read * size < found.length

private theorem Stage.start : Stage flag size found 0 ([] : List (Walk.Visit walk)) where
  begun := ⟨[], .here .first, fun name hn => nomatch hn⟩
  length := rfl
  records := by
    rw [Nat.zero_mul]
    rfl
  more := .inl rfl

private theorem Stage.requests (h : Stage flag size found read visits)
    (hcursor : visit.cursor = cursorAfter flag size read) :
    (walk.all (Walk.answers visits)).requests[(Walk.answers visits).length]? =
      some visit.request := by
  obtain ⟨names, hbegun, -⟩ := h.begun
  rw [hbegun.requests_all (hcursor ▸ visit.built)]
  simp [Walk.answers]

private theorem Stage.records_concat (h : Stage flag size found read visits)
    (hpage : visit.page = PageAsk.page ⟨.flag flag, size, read + 1⟩ "/v2/apps" found) :
    (visits ++ [visit]).flatMap (·.page.records) = found.take ((read + 1) * size) := by
  rw [List.flatMap_append, List.flatMap_singleton, h.records, hpage, PageAsk.records_page]

private theorem Stage.next (h : Stage flag size found read visits)
    (hcursor : visit.cursor = cursorAfter flag size read)
    (hpage : visit.page = PageAsk.page ⟨.flag flag, size, read + 1⟩ "/v2/apps" found)
    (hmore : (read + 1) * size < found.length) :
    Stage flag size found (read + 1) (visits ++ [visit]) := by
  obtain ⟨names, hbegun, hnames⟩ := h.begun
  have hnext : visit.page.next =
      some (PageAsk.pageName ⟨.flag flag, size, read + 1⟩ "/v2/apps" (read + 2)) := by
    rw [hpage]
    exact if_pos hmore
  have hfresh : PageAsk.pageName ⟨.flag flag, size, read + 1⟩ "/v2/apps" (read + 2) ∉ names := by
    intro hm
    obtain ⟨number, hlt, heq⟩ := hnames _ hm
    have hnumber := PageAsk.pageName_injective heq
    omega
  refine ⟨⟨_, Walk.Begun.concat (hcursor ▸ hbegun) hnext hfresh, ?_⟩, ?_,
    h.records_concat hpage, .inr hmore⟩
  · intro name hname
    rcases List.mem_append.mp hname with hname | hname
    · obtain ⟨number, hlt, rfl⟩ := hnames name hname
      exact ⟨number, by omega, rfl⟩
    · rw [List.mem_singleton] at hname
      exact ⟨read + 2, by omega, hname⟩
  · rw [List.length_append, h.length]
    rfl

private theorem Stage.finish (h : Stage flag size found read visits) (hsize : 0 < size)
    (hcursor : visit.cursor = cursorAfter flag size read)
    (hpage : visit.page = PageAsk.page ⟨.flag flag, size, read + 1⟩ "/v2/apps" found)
    (hlast : found.length ≤ (read + 1) * size) :
    let report := walk.all (Walk.answers (visits ++ [visit]))
    report.result = .ok found ∧
      report.requests.length = max 1 ((found.length + size - 1) / size) ∧
      report.requests[(Walk.answers (visits ++ [visit])).length]? = none := by
  obtain ⟨names, hbegun, -⟩ := h.begun
  have hnext : visit.page.next = none := by
    rw [hpage]
    exact if_neg (Nat.not_lt.mpr hlast)
  have hwhole := Walk.Begun.whole (hcursor ▸ hbegun) hnext
  obtain ⟨hresult, hrequests, -⟩ := Walk.all_of_whole hwhole []
  rw [List.append_nil] at hresult hrequests
  refine ⟨?_, ?_, ?_⟩
  · rw [hresult, h.records_concat hpage, List.take_of_length_le hlast]
  · rw [hrequests, List.length_map, List.length_append, h.length,
      ← PageAsk.pageCount_eq hsize h.more hlast]
    rfl
  · rw [hrequests]
    simp [Walk.answers]

/-- From any stage on, a server that answers the pages is asked until all are read. -/
theorem Stage.serve {σ : Type} {respond : σ → Request → Outcome × σ} {state : σ}
    (h : Stage flag size found read visits) (hsize : 0 < size)
    (hvisit : ∀ read, ∃ visit : Walk.Visit walk, visit.cursor = cursorAfter flag size read ∧
      visit.page = PageAsk.page ⟨.flag flag, size, read + 1⟩ "/v2/apps" found ∧
      respond state visit.request = (.ok visit.body, state))
    (hlimit : found.length < limit + read * size) :
    let outcome := Dialogue.serve respond walk.all limit state (Walk.answers visits)
    outcome.1.result = .ok found ∧
      outcome.1.requests.length = max 1 ((found.length + size - 1) / size) ∧
      outcome.2 = state := by
  induction limit generalizing read visits with
  | zero =>
    rcases h.more with rfl | hmore
    · rw [Nat.zero_mul] at hlimit
      omega
    · omega
  | succ limit ih =>
    obtain ⟨visit, hcursor, hpage, hrespond⟩ := hvisit read
    dsimp only
    rw [serve_ask _ _ (h.requests hcursor) hrespond, ← Walk.answers_concat]
    have hstep : (read + 1) * size = read * size + size := Nat.succ_mul _ _
    rcases Nat.lt_or_ge ((read + 1) * size) found.length with hmore | hlast
    · exact ih (h.next hcursor hpage hmore) (by omega)
    · obtain ⟨hresult, hlength, hdone⟩ := h.finish hsize hcursor hpage hlast
      rw [serve_done hdone]
      exact ⟨hresult, hlength, rfl⟩

end Stages

/-! ## Listings -/

/-- The listing of the applications with a flag, held with the control plane. -/
def listing (plane : ControlPlane) (client : Client) (limit : Nat) (apps : List Application)
    (flag : Bool) : Report (List Application) × List Application :=
  serve plane.respond (client.listApplications flag) limit apps []

private theorem listing_spec (h : plane.Hosts client) (apps : List Application) (flag : Bool)
    {limit : Nat} (hlimit : (apps.filter (·.diego = flag)).length < limit) :
    let size := client.settings.effectivePageSize
    (plane.listing client limit apps flag).1.result = .ok (apps.filter (·.diego = flag)) ∧
      (plane.listing client limit apps flag).1.requests.length =
        max 1 (((apps.filter (·.diego = flag)).length + size - 1) / size) ∧
      (plane.listing client limit apps flag).2 = apps := by
  have hwalk : client.listApplications flag = (flagWalk client plane.credential flag).all :=
    Client.walk_eq h.credential _ _
  rw [listing, hwalk]
  refine Stage.start.serve (effectivePageSize_pos _) (h.exists_visit apps flag) ?_
  rw [Nat.zero_mul, Nat.add_zero]
  exact hlimit

/-- Against a faithful control plane, a listing gives the applications with the flag, each as often
as the control plane holds it and in the same order, by one request for each page and at least one.
So every application is in one of the two listings. -/
theorem listing_exact (h : plane.Hosts client) (apps : List Application) {limit : Nat}
    (hlimit : apps.length < limit) :
    let size := max 1 (min 100 client.settings.pageSize)
    (∀ flag, (plane.listing client limit apps flag).1.result =
        .ok (apps.filter (·.diego = flag)) ∧
      (plane.listing client limit apps flag).1.requests.length =
        max 1 (((apps.filter (·.diego = flag)).length + size - 1) / size) ∧
      (plane.listing client limit apps flag).2 = apps) ∧
    ∃ on off, (plane.listing client limit apps true).1.result = .ok on ∧
      (plane.listing client limit apps false).1.result = .ok off ∧
      ∀ app ∈ apps, app ∈ on ∧ app ∉ off ∧ on.count app = apps.count app ∨
        app ∈ off ∧ app ∉ on ∧ off.count app = apps.count app := by
  have hlisting (flag : Bool) := listing_spec h apps flag
    (Nat.lt_of_le_of_lt (List.length_filter_le _ _) hlimit)
  refine ⟨hlisting, _, _, (hlisting true).1, (hlisting false).1, fun app ha => ?_⟩
  cases hflag : app.diego with
  | true => exact .inl ⟨by simp [ha, hflag], by simp [hflag], List.count_filter (by simp [hflag])⟩
  | false => exact .inr ⟨by simp [ha, hflag], by simp [hflag], List.count_filter (by simp [hflag])⟩

/-- Three applications, asked for one by one. -/
theorem listing_exact_three :
    let apps : List Application :=
      [⟨"a", "web", "s", true⟩, ⟨"b", "db", "s", false⟩, ⟨"c", "web", "t", true⟩]
    loopback.Hosts .oneByOne ∧ apps.length < 4 ∧
      (loopback.listing .oneByOne 4 apps true).1.result =
        .ok [⟨"a", "web", "s", true⟩, ⟨"c", "web", "t", true⟩] ∧
      (loopback.listing .oneByOne 4 apps true).1.requests.length = 2 := by
  have hosts : loopback.Hosts .oneByOne :=
    ⟨by decide +kernel, by decide +kernel, rfl, by decide +kernel⟩
  obtain ⟨hlisting, -⟩ := listing_exact hosts
    [⟨"a", "web", "s", true⟩, ⟨"b", "db", "s", false⟩, ⟨"c", "web", "t", true⟩]
    (by decide : 3 < 4)
  obtain ⟨hresult, hrequests, -⟩ := hlisting true
  exact ⟨hosts, by decide, hresult, hrequests⟩

end ControlPlane

end RuntimeFlag
