import RuntimeFlag.Proofs.Url.Origin
import RuntimeFlag.Request
/-!
# Where requests go

From the endpoint of a control plane, the first page of every collection and the change of every
flag have a URL on the site of the endpoint, whatever guids stand in their paths. A page that
another page names has a URL of the origin of the endpoint.
-/
namespace RuntimeFlag

/-- The URL of a control plane: one that a client speaks to, with a host and a path. -/
structure Url.IsEndpoint (base : Url) : Prop where
  web : base.IsWeb
  rooted : base.Rooted

theorem isEndpoint_of_parse {text : String} {base : Url} (h : Url.parse text = .ok base)
    (hw : base.IsWeb) : base.IsEndpoint := by
  obtain ⟨port, hk⟩ := Url.kind_of_isWeb hw
  exact ⟨hw, Url.rooted_of_parse h hk⟩

namespace Url.IsEndpoint

variable {base : Url}

private theorem urlForPath (h : base.IsEndpoint) {path : String} {rest : List Char}
    (hp : path.toList = '/' :: 'v' :: rest) :
    ∃ url, RuntimeFlag.urlForPath base path = .ok url ∧ url.site = base.site := by
  obtain ⟨port, hk⟩ := kind_of_isWeb h.web
  obtain ⟨cs, hjoin⟩ : ∃ cs, base.join path = .ok (withPath base [] cs) :=
    ⟨_, join_slash h.rooted hk hp (by decide) (by decide)⟩
  refine ⟨withPath base [] cs, ?_, site_withPath base [] cs⟩
  rw [RuntimeFlag.urlForPath, hjoin]

theorem origin?_of_site (h : base.IsEndpoint) {url : Url} (hs : url.site = base.site) :
    ∃ origin, base.origin? = some origin ∧ url.origin? = some origin := by
  obtain ⟨port, hk⟩ := kind_of_isWeb h.web
  obtain ⟨host, hh⟩ := h.rooted.1
  have hku : url.kind = .special port := by
    rw [kind, scheme_eq_of_site hs]
    exact hk
  refine ⟨_, origin?_of_special hk hh, ?_⟩
  rw [origin?_of_special hku ((host_eq_of_site hs).trans hh), scheme_eq_of_site hs,
    port_eq_of_site hs]

theorem sameOrigin_of_site (h : base.IsEndpoint) {url : Url} (hs : url.site = base.site) :
    url.sameOrigin base = true := by
  obtain ⟨origin, hbase, hurl⟩ := h.origin?_of_site hs
  exact sameOrigin_iff.mpr ⟨origin, hurl, hbase⟩

end Url.IsEndpoint

namespace Query

theorem path_toList (query : Query) : ∃ rest, query.path.toList = '/' :: 'v' :: rest := by
  unfold path
  split
  · exact ⟨_, by simp only [String.toList_append]; rfl⟩
  · cases query.collection <;> exact ⟨_, rfl⟩

theorem firstUrl_spec (query : Query) (h : query.base.IsEndpoint) :
    ∃ url, query.firstUrl = .ok url ∧ url.site = query.base.site := by
  obtain ⟨rest, hp⟩ := query.path_toList
  obtain ⟨url, hurl, hsite⟩ := h.urlForPath hp
  refine ⟨url.appendPairs query.pairs, ?_, hsite⟩
  rw [firstUrl, hurl]
  rfl

private theorem sameOrigin_of_nextUrl {query : Query} {next : String} {url : Url}
    (h : query.nextUrl next = .ok url) : url.sameOrigin query.base = true := by
  unfold nextUrl at h
  dsimp only at h
  split at h
  · cases h
  · split at h
    · next hsame =>
      cases h
      exact hsame
    · cases h

theorem request_next_of_join {query : Query} (hb : query.base.IsEndpoint) {next : String} {url : Url}
    (hurl : query.base.join next = .ok url) (hs : url.site = query.base.site) :
    query.request (.next next) = .ok ⟨.fetch, url, none⟩ := by
  have hsame := hb.sameOrigin_of_site hs
  rw [request, nextUrl, hurl]
  simp only [hsame, if_true]
  rfl

private theorem request_spec {query : Query} {cursor : Cursor} {request : Request}
    (h : query.request cursor = .ok request) :
    request.action = .fetch ∧ request.credential = none ∧
      (match cursor with
        | .first => query.firstUrl
        | .next next => query.nextUrl next) = .ok request.url := by
  obtain ⟨url, hurl, rfl⟩ := map_eq_ok.mp h
  exact ⟨rfl, rfl, hurl⟩

/-- Every page is asked for at the origin of the endpoint. -/
theorem origin?_of_request {query : Query} {cursor : Cursor} {request : Request}
    (hb : query.base.IsEndpoint) (h : query.request cursor = .ok request) :
    ∃ origin, query.base.origin? = some origin ∧ request.url.origin? = some origin := by
  have hurl := (request_spec h).2.2
  cases cursor with
  | first =>
    obtain ⟨url, hfirst, hsite⟩ := query.firstUrl_spec hb
    cases hfirst.symm.trans hurl
    exact hb.origin?_of_site hsite
  | next next =>
    obtain ⟨origin, hu, hq⟩ := Url.sameOrigin_iff.mp (sameOrigin_of_nextUrl hurl)
    exact ⟨origin, hq, hu⟩

end Query

theorem flagPath_toList (guid : String) :
    ∃ rest, ("/v2/apps/" ++ guid).toList = '/' :: 'v' :: rest := by
  rw [String.toList_append]
  exact ⟨"2/apps/".toList ++ guid.toList, rfl⟩

theorem flagRequest_spec {base : Url} (h : base.IsEndpoint) (guid : String) (enabled : Bool) :
    ∃ url, flagRequest base guid enabled = .ok ⟨.setFlag enabled, url, none⟩ ∧
      url.site = base.site := by
  obtain ⟨rest, hp⟩ := flagPath_toList guid
  obtain ⟨url, hurl, hsite⟩ := h.urlForPath hp
  refine ⟨url, ?_, hsite⟩
  rw [flagRequest, hurl]
  rfl

end RuntimeFlag
