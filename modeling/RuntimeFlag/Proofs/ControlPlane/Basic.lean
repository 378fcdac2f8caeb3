import RuntimeFlag.Proofs.Catalog.Page
import RuntimeFlag.Proofs.Confinement
import RuntimeFlag.Proofs.Lookup
import RuntimeFlag.Proofs.Text.Decimal
import RuntimeFlag.Proofs.Url.Words
/-!
# A faithful control plane

A control plane that holds a list of applications. It gives those with a name or a flag page by
page, all or those of one space, and changes the flag of the one with a guid. It reads a request as
it comes: the path word by word, the query as form pairs, the body as a value.
-/
namespace RuntimeFlag

/-! ## Reading requests -/

namespace Filter

def read? (text : String) : Option Filter :=
  match text.toList with
  | 'n' :: 'a' :: 'm' :: 'e' :: ':' :: rest => some (.name (String.ofList rest))
  | 'd' :: 'i' :: 'e' :: 'g' :: 'o' :: ':' :: rest =>
    if rest = "true".toList then some (.flag true)
    else if rest = "false".toList then some (.flag false)
    else none
  | _ => none

/-- A filter as it stands in a query. -/
def queryText : Filter → String
  | .flag enabled => "diego:" ++ Text.truth enabled
  | .name exactly => "name:" ++ String.ofList (Form.encode exactly)

def admits : Filter → Application → Bool
  | .flag enabled, app => app.diego = enabled
  | .name exactly, app => app.name = exactly

private theorem read?_text (filter : Filter) : read? filter.text = some filter := by
  cases filter with
  | flag enabled => cases enabled <;> rfl
  | name exactly =>
    have htext : (Filter.name exactly).text.toList = "name:".toList ++ exactly.toList :=
      String.toList_append
    have hread : read? (Filter.name exactly).text =
        some (.name (String.ofList exactly.toList)) := by
      rw [read?, htext]
      rfl
    rw [hread, String.ofList_toList]

end Filter

/-- What a page is asked for. -/
structure PageAsk where
  filter : Filter
  size : Nat
  /-- The number of the page, counted from one. -/
  number : Nat

namespace PageAsk

/-- Reads what a page is asked for. The first page is meant when no number is given. -/
def read? (pairs : List (String × String)) : Option PageAsk := do
  let filter ← (pairs.lookup "q").bind Filter.read?
  let size ← (pairs.lookup "results-per-page").bind Text.natural?
  let number ← ((pairs.lookup "page").map Text.natural?).getD (some 1)
  pure ⟨filter, size, number⟩

def pageName (ask : PageAsk) (path : String) (number : Nat) : String :=
  path ++ "?q=" ++ ask.filter.queryText ++ "&results-per-page=" ++ Text.decimal ask.size ++
    "&page=" ++ Text.decimal number

private theorem read?_asked (filter : Filter) (size : Nat) (others : List (String × String)) :
    read? (("q", filter.text) :: ("results-per-page", Text.decimal size) :: others) =
      (((others.lookup "page").map Text.natural?).getD (some 1)).map (PageAsk.mk filter size) := by
  have hfilter : (some filter.text).bind Filter.read? = some filter := filter.read?_text
  have hsize : (some (Text.decimal size)).bind Text.natural? = some size :=
    Text.natural?_decimal size
  change (do
    let filter ← (some filter.text).bind Filter.read?
    let size ← (some (Text.decimal size)).bind Text.natural?
    let number ← ((others.lookup "page").map Text.natural?).getD (some 1)
    pure (PageAsk.mk filter size number)) = _
  rw [hfilter, hsize]
  cases ((others.lookup "page").map Text.natural?).getD (some 1) <;> rfl

private theorem read?_first (filter : Filter) (size : Nat) :
    read? [("q", filter.text), ("results-per-page", Text.decimal size)] =
      some ⟨filter, size, 1⟩ :=
  read?_asked filter size []

def pairs (ask : PageAsk) : List (String × String) :=
  [("q", ask.filter.text), ("results-per-page", Text.decimal ask.size),
    ("page", Text.decimal ask.number)]

private theorem read?_pairs (ask : PageAsk) : read? ask.pairs = some ask := by
  have hasked := read?_asked ask.filter ask.size [("page", Text.decimal ask.number)]
  have hnumber : ([("page", Text.decimal ask.number)].lookup "page").map Text.natural? =
      some (some ask.number) := congrArg some (Text.natural?_decimal ask.number)
  rw [hnumber] at hasked
  exact hasked

def page (ask : PageAsk) (path : String) (apps : List Application) : Page Application :=
  { records := (apps.drop ((ask.number - 1) * ask.size)).take ask.size
    next :=
      if ask.number * ask.size < apps.length then some (ask.pageName path (ask.number + 1))
      else none }

/-- The page of the applications that the filter admits, as it is written. -/
def body (ask : PageAsk) (path : String) (apps : List Application) : Bytes :=
  let found := apps.filter ask.filter.admits
  let page := ask.page path found
  Utf8.encode
    (Catalog.writtenPage found.length page.next
      (page.records.map Catalog.writtenApplication)).compact

private theorem pageName_ne_empty (ask : PageAsk) (path : String) (number : Nat) :
    ask.pageName path number ≠ "" := by
  intro h
  have hlist := congrArg String.toList h
  simp [pageName, String.toList_append] at hlist

theorem decodePage_body (ask : PageAsk) (path : String) (apps : List Application) :
    Catalog.decodePage Catalog.application (ask.body path apps) =
      .ok (ask.page path (apps.filter ask.filter.admits)) := by
  have hnext : (ask.page path (apps.filter ask.filter.admits)).next.filter (· ≠ "") =
      (ask.page path (apps.filter ask.filter.admits)).next := by
    rw [page]
    split
    · simp [Option.filter, pageName_ne_empty]
    · rfl
  rw [body, Catalog.decodePage_written _ fun app _ => Catalog.application_written app, hnext]

end PageAsk

/-- A text of letters, digits and hyphens. -/
def IsWord (text : String) : Prop := ∀ c ∈ text.toList, Path.isWord c = true

instance (text : String) : Decidable (IsWord text) := List.decidableBAll _ _

/-- The path of the applications of a space, or of all. -/
def appsPath (space : Option String) : String :=
  (space.map fun guid => "/v2/spaces/" ++ guid ++ "/apps").getD "/v2/apps"

def inSpace (space : Option String) (apps : List Application) : List Application :=
  (space.map fun guid => apps.filter (·.spaceGuid = guid)).getD apps

/-! ## Paths -/

private theorem isWordPath_apps : Url.IsWordPath "/v2/apps" "v2" ["apps"] := by
  refine ⟨rfl, ?_, by decide⟩
  intro word hword
  simp only [List.mem_cons, List.not_mem_nil, or_false] at hword
  change IsWord word
  rcases hword with rfl | rfl
  · decide
  · decide

private theorem isWordPath_space {guid : String} (h : IsWord guid) :
    Url.IsWordPath ("/v2/spaces/" ++ guid ++ "/apps") "v2" ["spaces", guid, "apps"] := by
  refine ⟨?_, ?_, by decide⟩
  · rw [String.toList_append, String.toList_append]
    simp [List.intercalate, List.intersperse]
  · intro word hword
    simp only [List.mem_cons, List.not_mem_nil, or_false] at hword
    change IsWord word
    rcases hword with rfl | rfl | rfl | rfl
    · decide
    · decide
    · exact h
    · decide

private theorem isWordPath_app {guid : String} (h : IsWord guid) :
    Url.IsWordPath ("/v2/apps/" ++ guid) "v2" ["apps", guid] := by
  refine ⟨?_, ?_, by decide⟩
  · rw [String.toList_append]
    simp [List.intercalate, List.intersperse]
  · intro word hword
    simp only [List.mem_cons, List.not_mem_nil, or_false] at hword
    change IsWord word
    rcases hword with rfl | rfl | rfl
    · decide
    · decide
    · exact h

/-- A character that stands for itself in a query. -/
def IsPlainInQuery (c : Char) : Prop :=
  Percent.inSpecialQuery c = false ∧ c ≠ '%' ∧ c ≠ '+' ∧ c ≠ '&' ∧ c ≠ '='

instance (c : Char) : Decidable (IsPlainInQuery c) := inferInstanceAs (Decidable (_ ∧ _))

private theorem isPlainInQuery_of_all {cs : List Char} (h : cs.all (IsPlainInQuery ·) = true) :
    ∀ c ∈ cs, IsPlainInQuery c :=
  fun c hc => of_decide_eq_true (List.all_eq_true.mp h c hc)

private theorem isPlainInQuery_of_decimal {n : Nat} {c : Char} (h : c ∈ (Text.decimal n).toList) :
    IsPlainInQuery c := by
  have hdigits : ∀ n ≤ 57, 48 ≤ n → IsPlainInQuery (Char.ofNat n) := by decide
  obtain ⟨hlow, hhigh⟩ := Text.toNat_of_isDigit (Text.isDigit_of_mem_decimal h)
  have hc := hdigits c.toNat hhigh hlow
  rwa [Char.ofNat_toNat] at hc

private theorem PageAsk.isPlainInQuery_of_pairs (flag : Bool) (size number : Nat) :
    ∀ pair ∈ PageAsk.pairs ⟨.flag flag, size, number⟩, ∀ c ∈ pair.1.toList ++ pair.2.toList,
      IsPlainInQuery c := by
  intro pair hp c hc
  simp only [PageAsk.pairs, List.mem_cons, List.not_mem_nil, or_false] at hp
  rw [List.mem_append] at hc
  rcases hp with rfl | rfl | rfl
  · have hall : ∀ c ∈ "q".toList ++ (Filter.flag flag).text.toList, IsPlainInQuery c := by
      cases flag <;> exact isPlainInQuery_of_all (by decide)
    exact hall c (List.mem_append.mpr hc)
  · have hname : ∀ c ∈ "results-per-page".toList, IsPlainInQuery c :=
      isPlainInQuery_of_all (by decide)
    exact hc.elim (hname c) isPlainInQuery_of_decimal
  · have hname : ∀ c ∈ "page".toList, IsPlainInQuery c :=
      isPlainInQuery_of_all (by decide)
    exact hc.elim (hname c) isPlainInQuery_of_decimal

/-- The name of a page of flagged applications leads back to what it asks for. -/
theorem join_pageName {base : Url} (hb : base.IsEndpoint) (flag : Bool) (size number page : Nat) :
    ∃ url, base.join (PageAsk.pageName ⟨.flag flag, size, number⟩ "/v2/apps" page) = .ok url ∧
      url.site = base.site ∧ url.words = ["v2", "apps"] ∧
      url.pairs = PageAsk.pairs ⟨.flag flag, size, page⟩ := by
  have hplain := PageAsk.isPlainInQuery_of_pairs flag size page
  have hread : Form.decodePairs (Form.plainQuery (PageAsk.pairs ⟨.flag flag, size, page⟩)) =
      PageAsk.pairs ⟨.flag flag, size, page⟩ :=
    Form.decodePairs_plainQuery (List.cons_ne_nil _ _) fun pair hp c hc => (hplain pair hp c hc).2
  have hquery : ∀ c ∈ Form.plainQuery (PageAsk.pairs ⟨.flag flag, size, page⟩),
      Percent.inSpecialQuery c = false := by
    intro c hc
    rcases Form.mem_plainQuery hc with rfl | rfl | ⟨pair, hp, hc⟩
    · decide
    · decide
    · exact (hplain pair hp c hc).1
  have htext : PageAsk.pageName ⟨.flag flag, size, number⟩ "/v2/apps" page = "/v2/apps" ++
      String.ofList (Url.queryChars (some (Form.plainQuery
        (PageAsk.pairs ⟨.flag flag, size, page⟩)))) := by
    rw [← String.toList_inj]
    simp [PageAsk.pageName, PageAsk.pairs, Form.plainQuery, Url.queryChars, Filter.queryText,
      Filter.text, List.intercalate, List.intersperse]
  obtain ⟨url, hjoin, hsite, hwords, hurl⟩ := Url.join_wordPath hb isWordPath_apps
    (some _) fun cs hcs => Option.some.inj hcs ▸ hquery
  rw [← htext] at hjoin
  refine ⟨url, hjoin, hsite, hwords, ?_⟩
  rw [Url.pairs, hurl]
  exact hread

/-! ## Responses -/

/-- A control plane: its address, the credential that it accepts, and its answer to a write. -/
structure ControlPlane where
  address : Url
  credential : String
  receipt : Bytes

namespace ControlPlane

/-- The applications after the flag of the one with a guid has been set. -/
def setFlag (guid : String) (enabled : Bool) (apps : List Application) : List Application :=
  apps.map fun app => if app.guid = guid then { app with diego := enabled } else app

def list (request : Request) (path : String) (apps : List Application) : Outcome :=
  match PageAsk.read? request.url.pairs with
  | some ask => .ok (ask.body path apps)
  | none => .error (.badRequest "The query parameter is invalid")

/-- The answer to a request that the control plane accepts, and the applications after it. -/
def handle (plane : ControlPlane) (apps : List Application) (request : Request) :
    Outcome × List Application :=
  match request.method, request.url.words, request.body? with
  | "GET", ["v2", "apps"], none => (list request "/v2/apps" apps, apps)
  | "GET", ["v2", "spaces", space, "apps"], none =>
    (list request ("/v2/spaces/" ++ space ++ "/apps") (apps.filter (·.spaceGuid = space)), apps)
  | "PUT", ["v2", "apps", guid], some (.object [("diego", .flag enabled)]) =>
    if apps.any (·.guid = guid) then (.ok plane.receipt, setFlag guid enabled apps)
    else (.error (.notFound ("The app could not be found: " ++ guid)), apps)
  | _, _, _ => (.error (.notFound "Unknown request"), apps)

def respond (plane : ControlPlane) (apps : List Application) (request : Request) :
    Outcome × List Application :=
  if !request.url.sameOrigin plane.address then
    (.error (.network "Failed to connect to API"), apps)
  else if !request.headers.any fun header =>
      header.name = "authorization" && header.value = plane.credential then
    (.error .unauthorized, apps)
  else plane.handle apps request

variable {plane : ControlPlane} {base url : Url} {apps : List Application}

private theorem respond_accepted (h : url.sameOrigin plane.address = true) (action : Action) :
    plane.respond apps ⟨action, url, some plane.credential⟩ =
      plane.handle apps ⟨action, url, some plane.credential⟩ := by
  have hheader : (Request.headers ⟨action, url, some plane.credential⟩).any (fun header =>
      header.name = "authorization" && header.value = plane.credential) = true := by
    simp [Request.headers]
  rw [respond, h, hheader]
  rfl

private theorem handle_fetch_apps {credential : Option String} (h : url.words = ["v2", "apps"]) :
    plane.handle apps ⟨.fetch, url, credential⟩ =
      (list ⟨.fetch, url, credential⟩ "/v2/apps" apps, apps) := by
  simp only [handle, h]
  rfl

private theorem handle_fetch_space {credential : Option String} {space : String}
    (h : url.words = ["v2", "spaces", space, "apps"]) :
    plane.handle apps ⟨.fetch, url, credential⟩ =
      (list ⟨.fetch, url, credential⟩ ("/v2/spaces/" ++ space ++ "/apps")
        (apps.filter (·.spaceGuid = space)), apps) := by
  simp only [handle, h]
  rfl

private theorem handle_setFlag {credential : Option String} {guid : String} {enabled : Bool}
    (h : url.words = ["v2", "apps", guid]) (hg : ∃ app ∈ apps, app.guid = guid) :
    plane.handle apps ⟨.setFlag enabled, url, credential⟩ =
      (.ok plane.receipt, setFlag guid enabled apps) := by
  have hany : apps.any (·.guid = guid) = true := by
    simpa using hg
  simp only [handle, h]
  exact if_pos hany

section Requests

variable (hb : base.IsEndpoint) (haddress : plane.address = base)

include hb haddress

private theorem sameOrigin_of_site (hs : url.site = base.site) :
    url.sameOrigin plane.address = true := by
  rw [haddress]
  exact hb.sameOrigin_of_site hs

private theorem respond_fetch (space : Option String) {ask : PageAsk} {others : List String}
    (hs : url.site = base.site) (hw : url.words = "v2" :: others)
    (hspace : others = (space.map fun guid => ["spaces", guid, "apps"]).getD ["apps"])
    (hp : PageAsk.read? url.pairs = some ask) (apps : List Application) :
    plane.respond apps ⟨.fetch, url, some plane.credential⟩ =
      (.ok (ask.body (appsPath space) (inSpace space apps)), apps) := by
  have hlist (path : String) (found : List Application) :
      list ⟨.fetch, url, some plane.credential⟩ path found = .ok (ask.body path found) := by
    rw [list, hp]
  rw [respond_accepted (sameOrigin_of_site hb haddress hs)]
  cases space with
  | none =>
    subst hspace
    rw [handle_fetch_apps hw, hlist]
    rfl
  | some guid =>
    subst hspace
    rw [handle_fetch_space hw, hlist]
    rfl

theorem respond_first (filter : Filter) (size : Nat) (space : Option String)
    (hspace : ∀ guid ∈ space, IsWord guid) :
    ∃ plain, (Query.mk base .apps (some filter) (some size) space).request .first = .ok plain ∧
      ∀ apps, plane.respond apps (plain.withCredential plane.credential) =
        (.ok (PageAsk.body ⟨filter, size, 1⟩ (appsPath space) (inSpace space apps)), apps) := by
  obtain ⟨others, hothers, hpath⟩ : ∃ others,
      others = (space.map fun guid => ["spaces", guid, "apps"]).getD ["apps"] ∧
      Url.IsWordPath (Query.mk base .apps (some filter) (some size) space).path "v2" others := by
    cases space with
    | none => exact ⟨_, rfl, isWordPath_apps⟩
    | some guid => exact ⟨_, rfl, isWordPath_space (hspace guid rfl)⟩
  obtain ⟨url, hrequest, hsite, hwords, hpairs⟩ := Query.request_first hb hpath
  have hread : PageAsk.read? url.pairs = some ⟨filter, size, 1⟩ := by
    rw [hpairs]
    exact PageAsk.read?_first filter size
  exact ⟨_, hrequest, respond_fetch hb haddress space hsite hwords hothers hread⟩

theorem respond_next (flag : Bool) (size number page : Nat) {query : Query}
    (hq : query.base = base) :
    ∃ plain, query.request
        (.next (PageAsk.pageName ⟨.flag flag, size, number⟩ "/v2/apps" page)) = .ok plain ∧
      ∀ apps, plane.respond apps (plain.withCredential plane.credential) =
        (.ok (PageAsk.body ⟨.flag flag, size, page⟩ "/v2/apps" apps), apps) := by
  obtain ⟨url, hurl, hsite, hwords, hpairs⟩ := join_pageName hb flag size number page
  have hread : PageAsk.read? url.pairs = some ⟨.flag flag, size, page⟩ := by
    rw [hpairs]
    exact PageAsk.read?_pairs _
  subst hq
  exact ⟨⟨.fetch, url, none⟩, Query.request_next_of_join hb hurl hsite,
    respond_fetch hb haddress none hsite hwords rfl hread⟩

theorem respond_flagRequest {guid : String} (hg : IsWord guid) (enabled : Bool) :
    ∃ plain, flagRequest base guid enabled = .ok plain ∧
      ∀ apps : List Application, (∃ app ∈ apps, app.guid = guid) →
        plane.respond apps (plain.withCredential plane.credential) =
          (.ok plane.receipt, setFlag guid enabled apps) := by
  obtain ⟨url, hurl, hsite, hwords, -⟩ := urlForPath_wordPath hb (isWordPath_app hg)
  refine ⟨⟨.setFlag enabled, url, none⟩, ?_, fun apps hmem => ?_⟩
  · rw [flagRequest, hurl]
    rfl
  · exact (respond_accepted (sameOrigin_of_site hb haddress hsite) _).trans
      (handle_setFlag hwords hmem)

end Requests

/-! ## Sessions -/

theorem effectivePageSize_pos (settings : Settings) : 0 < settings.effectivePageSize := by
  rw [Settings.effectivePageSize]
  omega

/-- The session of a client is one with the control plane. -/
structure Hosts (plane : ControlPlane) (client : Client) : Prop where
  opened : Client.ofSettings client.settings = .ok client
  web : client.base.IsWeb
  address : plane.address = client.base
  credential : client.settings.credential = .ok plane.credential

theorem Hosts.endpoint {client : Client} (h : plane.Hosts client) : client.base.IsEndpoint := by
  obtain ⟨-, text, hparse⟩ := Client.ofSettings_spec h.opened
  exact isEndpoint_of_parse hparse h.web

def loopback : ControlPlane := ⟨Client.loopback.base, "bearer abc", []⟩

theorem loopback_hosts : loopback.Hosts .loopback where
  opened := by decide +kernel
  web := by decide +kernel
  address := rfl
  credential := by decide +kernel

end ControlPlane

end RuntimeFlag
