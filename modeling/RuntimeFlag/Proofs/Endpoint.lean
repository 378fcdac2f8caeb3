import RuntimeFlag.Proofs.Confinement
/-!
# What matters of an endpoint

The paths of the control plane begin at the root, so what is asked for first depends on the site of
the endpoint alone: its path, its query and its fragment leave no trace, wherever the guids in the
paths lead.
-/
namespace RuntimeFlag

namespace Url

variable {a b : Url}

private theorem withPath_eq_of_site (h : a.site = b.site) (start : List (List Char))
    (cs : List Char) :
    withPath a start cs = withPath b start cs := by
  have hkind : a.kind = b.kind := congrArg schemeKind (scheme_eq_of_site h)
  have hbare (path : UrlPath) :
      { a with path := path, query := none, fragment := none } =
        { b with path := path, query := none, fragment := none } := by
    cases a
    cases b
    simp_all [site]
  rw [withPath, withPath, hkind]
  dsimp only
  rw [hbare]

private theorem urlForPath_eq_of_site (ha : a.IsEndpoint) (hb : b.IsEndpoint) (hs : a.site = b.site)
    {path : String} {rest : List Char} (hp : path.toList = '/' :: 'v' :: rest) :
    urlForPath a path = urlForPath b path := by
  obtain ⟨port, hk⟩ := kind_of_isWeb ha.web
  have hkb : b.kind = .special port :=
    (congrArg schemeKind (scheme_eq_of_site hs)).symm.trans hk
  rw [urlForPath, urlForPath, join_slash ha.rooted hk hp (by decide) (by decide),
    join_slash hb.rooted hkb hp (by decide) (by decide), withPath_eq_of_site hs]

end Url

/-- Two endpoints on one site are asked for every first page and for every change of a flag by the
same requests, with the same URLs. -/
theorem Settings.requests_eq_of_site {first second : Settings} {a b : Url}
    (ha : first.baseUrl = .ok a) (hb : second.baseUrl = .ok b) (hw : a.IsWeb)
    (hs : a.site = b.site) :
    (∀ collection filter size space, ∃ url,
      (Query.mk a collection filter size space).request .first = .ok ⟨.fetch, url, none⟩ ∧
      (Query.mk b collection filter size space).request .first = .ok ⟨.fetch, url, none⟩) ∧
    ∀ guid enabled, ∃ url,
      flagRequest a guid enabled = .ok ⟨.setFlag enabled, url, none⟩ ∧
      flagRequest b guid enabled = .ok ⟨.setFlag enabled, url, none⟩ := by
  obtain ⟨text, htext⟩ := exists_parse_of_baseUrl ha
  obtain ⟨other, hother⟩ := exists_parse_of_baseUrl hb
  have hea := isEndpoint_of_parse htext hw
  have heb : b.IsEndpoint := isEndpoint_of_parse hother (by
    rw [Url.IsWeb, ← Url.scheme_eq_of_site hs]
    exact hw)
  constructor
  · intro collection filter size space
    obtain ⟨rest, hpath⟩ := (Query.mk a collection filter size space).path_toList
    obtain ⟨url, hurl, -⟩ := (Query.mk a collection filter size space).firstUrl_spec hea
    have hsame : (Query.mk b collection filter size space).firstUrl = .ok url := by
      rw [← hurl, Query.firstUrl, Query.firstUrl]
      exact congrArg (Except.map _) (Url.urlForPath_eq_of_site heb hea hs.symm hpath)
    exact ⟨url, congrArg (Except.map _) hurl, congrArg (Except.map _) hsame⟩
  · intro guid enabled
    obtain ⟨url, hurl, -⟩ := flagRequest_spec hea guid enabled
    obtain ⟨rest, hpath⟩ := flagPath_toList guid
    refine ⟨url, hurl, ?_⟩
    rw [← hurl, flagRequest, flagRequest, Url.urlForPath_eq_of_site heb hea hs.symm hpath]

/-- Two spellings of an endpoint, and a guid that leads upwards. -/
theorem Settings.requests_eq_of_site_upwards :
    let first := { Settings.empty with endpoint := some " HTTPS://[::1]:443/x/../y/?q=1#f\n" }
    let second := { Settings.empty with endpoint := some "https://[0:0::1]" }
    let b : Url := { Client.loopback.base with port := none, path := .segments [[]] }
    let a : Url :=
      { b with
        path := .segments ["y".toList, []]
        query := some "q=1".toList
        fragment := some "f".toList }
    first.baseUrl = .ok a ∧ second.baseUrl = .ok b ∧ a.IsWeb ∧ a.site = b.site ∧
    ∃ url, (Query.mk a .apps none none (some "../../..")).request .first = .ok ⟨.fetch, url, none⟩ ∧
      (Query.mk b .apps none none (some "../../..")).request .first = .ok ⟨.fetch, url, none⟩ := by
  intro first second b a
  have ha : first.baseUrl = .ok a := by decide +kernel
  have hb : second.baseUrl = .ok b := by decide +kernel
  have hw : a.IsWeb := by decide +kernel
  exact ⟨ha, hb, hw, rfl, (requests_eq_of_site ha hb hw rfl).1 .apps none none (some "../../..")⟩

end RuntimeFlag
