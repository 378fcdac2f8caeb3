import RuntimeFlag.Proofs.Confinement
import RuntimeFlag.Proofs.Lookup
import RuntimeFlag.Proofs.Collection
import RuntimeFlag.Proofs.Url.Front
/-!
# What a first page is asked for by

The URL of the first page of a collection has the path of the collection, and its query is read as
the pairs that say which records are wanted, how many of them, and with which relations. A client
always says how many.
-/
namespace RuntimeFlag

namespace Query

/-! ## Queries -/

/-- The query with filters that are set one after another. -/
def filtered (query : Query) (filters : List Filter) : Query :=
  filters.foldl (fun query filter => { query with filter := some filter }) query

private theorem filtered_eq (query : Query) (filters : List Filter) :
    query.filtered filters = { query with filter := filters.getLast?.or query.filter } := by
  induction filters generalizing query with
  | nil => rfl
  | cons filter filters ih =>
    have hstep : query.filtered (filter :: filters) =
        ({ query with filter := some filter } : Query).filtered filters := rfl
    rw [hstep, ih, List.getLast?_cons]
    cases filters.getLast? <;> rfl

/-- The pairs that say what is wanted. -/
def wanted (filter : Option Filter) (size : Option Nat) (collection : Collection) :
    List (String × String) :=
  (match filter with
    | none => []
    | some (.flag enabled) => [("q", "diego:" ++ Text.truth enabled)]
    | some (.name exactly) => [("q", "name:" ++ exactly)]) ++
  (match size with
    | none => []
    | some size => [("results-per-page", Text.decimal size)]) ++
  (match collection with
    | .spaces => [("inline-relations-depth", "1")]
    | .apps | .organizations => [])

private theorem pairs_eq_wanted (query : Query) :
    query.pairs = wanted query.filter query.pageSize query.collection := by
  obtain ⟨base, collection, filter, size, space⟩ := query
  rcases filter with _ | enabled | exactly <;> cases size <;> cases collection <;> rfl

/-- The query is not about one space. The space says something about applications only. -/
def IsUnscoped (query : Query) : Prop := query.spaceGuid = none ∨ query.collection ≠ .apps

private theorem IsUnscoped.path_eq {query : Query} (h : query.IsUnscoped) :
    query.path = query.collection.path := by
  obtain ⟨base, collection, filter, size, space⟩ := query
  cases collection with
  | apps =>
    cases space with
    | none => rfl
    | some guid =>
      rcases h with h | h
      · cases h
      · exact (h rfl).elim
  | spaces => rfl
  | organizations => rfl

end Query

/-! ## URLs of collections -/

namespace Collection

def name : Collection → List Char
  | .apps => "apps".toList
  | .spaces => "spaces".toList
  | .organizations => "organizations".toList

private theorem path_toList (collection : Collection) :
    collection.path.toList = '/' :: ['/'].intercalate ["v2".toList, collection.name] := by
  cases collection <;> rfl

private theorem isWord_name (collection : Collection) :
    ∀ s ∈ ["v2".toList, collection.name], ∀ c ∈ s, Path.isWord c = true := by
  have hall : ["v2".toList, collection.name].all (·.all Path.isWord) = true := by
    cases collection <;> decide
  simpa only [List.all_eq_true] using hall

private theorem encode_name (collection : Collection) :
    ["v2".toList, collection.name].map (Percent.encode Percent.inPath) =
      ["v2".toList, collection.name] := by
  cases collection <;> rfl

private theorem isPathEnd_path (collection : Collection) :
    ∀ c ∈ collection.path.toList, Url.isPathEnd c = false := by
  have hnone : (collection.path.toList.all fun c => !Url.isPathEnd c) = true := by
    cases collection <;> decide
  simpa only [List.all_eq_true, Bool.not_eq_true'] using hnone

end Collection

namespace Url

variable {base url other : Url}

/-- The URL asks for the first page of a collection, and for nothing else. -/
structure AsksFor (url base : Url) (collection : Collection) (filter : Option Filter)
    (size : Option Nat) : Prop where
  site : url.site = base.site
  path : url.path.chars = collection.path.toList
  fragment : url.fragment = none
  pairs : url.pairs = Query.wanted filter size collection
  query : url.query = none ↔ Query.wanted filter size collection = []

private theorem join_collection (hb : base.IsEndpoint) (collection : Collection) :
    ∃ url, base.join collection.path = .ok url ∧ url.site = base.site ∧
      url.path.chars = collection.path.toList ∧ url.query = none ∧ url.fragment = none := by
  have hnone : ∀ text ∈ (none : Option (List Char)), ∀ c ∈ text,
      Percent.inSpecialQuery c = false := fun text ht => nomatch ht
  have hjoin := join_words collection.isWord_name hnone hb rfl
  have htext : String.ofList ('/' :: (['/'].intercalate ["v2".toList, collection.name] ++
      queryChars none)) = collection.path := by
    rw [queryChars, Option.map_none, Option.getD_none, List.append_nil, ← collection.path_toList,
      String.ofList_toList]
  rw [htext, collection.encode_name] at hjoin
  refine ⟨_, hjoin, rfl, ?_, rfl, rfl⟩
  rw [collection.path_toList]
  exact chars_segments_eq_intercalate (List.cons_ne_nil _ _)

/-- The first page of a collection is asked for by the path of the collection, and by what is
wanted. -/
theorem asksFor_of_query (query : Query) (hb : query.base.IsEndpoint) (h : query.IsUnscoped) :
    ∃ url, query.request .first = .ok ⟨.fetch, url, none⟩ ∧
      url.AsksFor query.base query.collection query.filter query.pageSize := by
  obtain ⟨url, hjoin, hsite, hpath, hquery, hfragment⟩ := join_collection hb query.collection
  refine ⟨url.appendPairs query.pairs, ?_, hsite, hpath, hfragment, ?_, ?_⟩
  · rw [Query.request, Query.firstUrl, h.path_eq, urlForPath, hjoin]
    rfl
  · rw [pairs_appendPairs, pairs_of_query_none hquery, List.nil_append, Query.pairs_eq_wanted]
  · rw [← Query.pairs_eq_wanted, appendPairs, hquery]
    simp [Form.append]

namespace AsksFor

variable {collection last : Collection} {size count : Option Nat} {a b : String}

private theorem name_eq {host : Host} (hh : base.host = some host)
    (ha : url.AsksFor base collection (some (.name a)) size)
    (hb : other.AsksFor base last (some (.name b)) count) (h : url.text = other.text) : a = b := by
  have hrest : url.restChars = other.restChars :=
    restChars_of_text (ha.site.trans hb.site.symm) ((host_eq_of_site hb.site).trans hh) h
  have hquery : url.query = other.query :=
    query_eq_of_restChars (ha.path ▸ collection.isPathEnd_path) (hb.path ▸ last.isPathEnd_path)
      ha.fragment hb.fragment hrest
  have hpairs : url.pairs = other.pairs := by rw [Url.pairs, Url.pairs, hquery]
  rw [ha.pairs, hb.pairs] at hpairs
  -- the pair of the name is the first one, whatever else is wanted
  have hpair : ("q", "name:" ++ a) = ("q", "name:" ++ b) := (List.cons.inj hpairs).1
  exact (String.append_right_inj _).mp (Prod.mk.inj hpair).2

end AsksFor

end Url

/-! ## Clients -/

namespace Client

variable {client : Client} {url : Url}

open Dialogue

/-- The dialogue begins with a request for a URL, with the credential of the session. Without a
credential it asks for nothing. -/
def Opens {α : Type} (client : Client) (dialogue : Dialogue α) (url : Url) : Prop :=
  ∀ wire, (dialogue wire).requests.head? =
    client.settings.credential.toOption.map fun value => ⟨.fetch, url, some value⟩

private theorem opens_walk {α : Type} {query : Query}
    (hr : query.request .first = .ok ⟨.fetch, url, none⟩) (record : Json.Decoder α) :
    client.Opens (client.walk query record) url := by
  intro wire
  cases hv : client.settings.credential with
  | error failure =>
    rw [(refuses_walk hv query record wire).2]
    rfl
  | ok value =>
    rw [walk_eq hv, Walk.all, Walk.head?_requests_go, Query.request_walk value record hr]
    rfl

private theorem opens_findApplication {name : String}
    (hr : (client.lookupQuery name).request .first = .ok ⟨.fetch, url, none⟩) :
    client.Opens (client.findApplication name) url := by
  intro wire
  cases hv : client.settings.credential with
  | error failure =>
    have hrefuses : Refuses failure (client.findApplication name) := Refuses.ofExcept_bind hv _
    rw [(hrefuses wire).2]
    rfl
  | ok value =>
    rw [(findApplication_runs hv hr wire).requests]
    rfl

/-- Every first page that the client asks for is a page of so many records. In a space, the path may
bring pairs of its own, which stand before those of the client. -/
structure PagesBy (client : Client) (size : Nat) : Prop where
  applications (flag : Bool) : ∃ url, client.Opens (client.listApplications flag) url ∧
    url.AsksFor client.base .apps (some (.flag flag)) (some size)
  spaces : ∃ url, client.Opens client.listSpaces url ∧
    url.AsksFor client.base .spaces none (some size)
  organizations : ∃ url, client.Opens client.listOrganizations url ∧
    url.AsksFor client.base .organizations none (some size)
  lookup (name : String) : ∃ url own, client.Opens (client.findApplication name) url ∧
    url.pairs = own ++ Query.wanted (some (.name name)) (some size) .apps ∧
    (client.settings.spaceGuid = none →
      url.AsksFor client.base .apps (some (.name name)) (some size))

private theorem pagesBy_effectivePageSize (hb : client.base.IsEndpoint) :
    client.PagesBy client.settings.effectivePageSize where
  applications flag := by
    obtain ⟨url, hr, hasks⟩ := Url.asksFor_of_query
      { client.query .apps with filter := some (.flag flag) } hb (.inl rfl)
    exact ⟨url, opens_walk hr _, hasks⟩
  spaces := by
    obtain ⟨url, hr, hasks⟩ := Url.asksFor_of_query (client.query .spaces) hb (.inl rfl)
    exact ⟨url, opens_walk hr _, hasks⟩
  organizations := by
    obtain ⟨url, hr, hasks⟩ := Url.asksFor_of_query (client.query .organizations) hb (.inl rfl)
    exact ⟨url, opens_walk hr _, hasks⟩
  lookup name := by
    have hbase : (client.lookupQuery name).base.IsEndpoint := hb
    obtain ⟨url, hfirst, -⟩ := (client.lookupQuery name).firstUrl_spec hbase
    have hr : (client.lookupQuery name).request .first = .ok ⟨.fetch, url, none⟩ :=
      congrArg (Except.map _) hfirst
    obtain ⟨page, -, rfl⟩ := map_eq_ok.mp hfirst
    refine ⟨_, page.pairs, opens_findApplication hr, ?_, fun hnone => ?_⟩
    · rw [Url.pairs_appendPairs, Query.pairs_eq_wanted]
      rfl
    · obtain ⟨other, hother, hasks⟩ := Url.asksFor_of_query _ hbase (.inl hnone)
      cases hr.symm.trans hother
      exact hasks

end Client

/-- The URL of a first page says what is wanted and nothing else: the last filter, the size and the
relations, in this order. So look-ups of different names have different URLs; and a client asks for
pages of 1 to 100 records, whatever its settings say. -/
theorem Query.first_page_exact {text : String} {base : Url} (hp : Url.parse text = .ok base)
    (hw : base.IsWeb) :
    (∀ query : Query, query.base = base → query.IsUnscoped → ∀ filters,
      ∃ url, (query.filtered filters).request .first = .ok ⟨.fetch, url, none⟩ ∧
        url.AsksFor base query.collection (filters.getLast?.or query.filter) query.pageSize) ∧
    (∀ first second : Query, first.base = base → second.base = base →
      first.IsUnscoped → second.IsUnscoped →
      ∀ a b, first.filter = some (.name a) → second.filter = some (.name b) → a ≠ b →
      ∃ url other, first.request .first = .ok ⟨.fetch, url, none⟩ ∧
        second.request .first = .ok ⟨.fetch, other, none⟩ ∧ url.text ≠ other.text) ∧
    ∀ client : Client, client.base = base →
      ∃ size, 1 ≤ size ∧ size ≤ 100 ∧ client.PagesBy size := by
  have hb := isEndpoint_of_parse hp hw
  refine ⟨?_, ?_, ?_⟩
  · rintro query rfl hunscoped filters
    rw [filtered_eq]
    exact Url.asksFor_of_query { query with filter := filters.getLast?.or query.filter } hb
      hunscoped
  · rintro first second hfirst hsecond hone htwo a b ha hbn hne
    obtain ⟨host, hhost⟩ := hb.rooted.1
    obtain ⟨url, hurl, hasks⟩ := Url.asksFor_of_query first (hfirst ▸ hb) hone
    obtain ⟨other, hother, hsame⟩ := Url.asksFor_of_query second (hsecond ▸ hb) htwo
    rw [hfirst, ha] at hasks
    rw [hsecond, hbn] at hsame
    exact ⟨url, other, hurl, hother, fun htext => hne (hasks.name_eq hhost hsame htext)⟩
  · rintro client rfl
    refine ⟨client.settings.effectivePageSize, ?_, ?_, Client.pagesBy_effectivePageSize hb⟩
    · exact Nat.le_max_left _ _
    · rw [Settings.effectivePageSize, Settings.maxPageSize]
      omega

/-- A name of reserved characters, two names that a careless encoding would confuse, and settings
that ask for more than a page can hold. -/
theorem Query.first_page_exact_reserved :
    let base : Url :=
      { Client.loopback.base with query := some "q".toList, fragment := some "f".toList }
    let query : Query := ⟨base, .spaces, none, some 7, some "s"⟩
    let named (name : String) : Query := ⟨base, .apps, some (.name name), none, none⟩
    Url.parse "https://[::1]:8443/x?q#f" = .ok base ∧ base.IsWeb ∧
    (∃ url, (query.filtered [.flag true, .name "a&b=c +%#é"]).request .first =
        .ok ⟨.fetch, url, none⟩ ∧
      url.AsksFor base .spaces (some (.name "a&b=c +%#é")) (some 7)) ∧
    (∃ url other, (named "a b").request .first = .ok ⟨.fetch, url, none⟩ ∧
      (named "a+b").request .first = .ok ⟨.fetch, other, none⟩ ∧ url.text ≠ other.text) ∧
    ∃ size, 1 ≤ size ∧ size ≤ 100 ∧
      (Client.mk { Settings.empty with pageSize := 5000 } base).PagesBy size := by
  intro base query named
  have hp : Url.parse "https://[::1]:8443/x?q#f" = .ok base := by decide +kernel
  have hw : base.IsWeb := by decide +kernel
  obtain ⟨hasks, hnames, hsize⟩ := first_page_exact hp hw
  refine ⟨hp, hw, hasks query rfl (.inr (by decide)) [.flag true, .name "a&b=c +%#é"], ?_,
    hsize _ rfl⟩
  exact hnames (named "a b") (named "a+b") rfl rfl (.inl rfl) (.inl rfl) "a b" "a+b" rfl rfl
    (by decide)

end RuntimeFlag
