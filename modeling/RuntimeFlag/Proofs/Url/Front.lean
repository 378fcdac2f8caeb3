import RuntimeFlag.Proofs.Url.Words
/-!
# Written URLs

A URL with a host is written as its site with the path, the query and the fragment behind it. So two
URLs on one site that are written alike agree in all that is behind the site.
-/
namespace RuntimeFlag.Url

variable {a b url : Url} {host : Host}

/-- Scheme, user name and password, host and port of a URL, as they are written. -/
def siteChars (url : Url) (host : Host) : List Char :=
  url.scheme ++ "://".toList ++ url.userInfoChars ++ host.chars ++
    (url.port.map fun port => ':' :: Nat.toDigits 10 port).getD []

/-- What is written behind the site. -/
def restChars (url : Url) : List Char :=
  url.path.chars ++ queryChars url.query ++ (url.fragment.map ('#' :: ·)).getD []

theorem chars_of_host (h : url.host = some host) :
    url.chars = url.siteChars host ++ url.restChars := by
  have hauthority : url.scheme ++ ':' :: url.authorityChars = url.siteChars host := by
    rw [authorityChars, h]
    simp [siteChars]
  have hchars : url.chars = url.scheme ++ ':' :: url.authorityChars ++ url.path.chars ++
      queryChars url.query ++ (url.fragment.map ('#' :: ·)).getD [] := rfl
  rw [hchars, hauthority, restChars]
  simp only [List.append_assoc]

theorem siteChars_eq_of_site (h : a.site = b.site) (host : Host) :
    a.siteChars host = b.siteChars host := by
  have huser : a.userInfoChars = b.userInfoChars := by
    rw [userInfoChars, userInfoChars, show a.password = b.password from congrArg Site.password h,
      show a.username = b.username from congrArg Site.username h]
  rw [siteChars, siteChars, scheme_eq_of_site h, huser, port_eq_of_site h]

theorem restChars_of_text (hs : a.site = b.site) (hh : b.host = some host)
    (h : a.text = b.text) : a.restChars = b.restChars := by
  have hchars : a.chars = b.chars := String.ofList_injective h
  rw [chars_of_host ((host_eq_of_site hs).trans hh), chars_of_host hh,
    siteChars_eq_of_site hs] at hchars
  exact List.append_cancel_left hchars

private theorem queryChars_injective : Function.Injective queryChars := by
  intro query other h
  cases query <;> cases other
  · rfl
  · cases h
  · cases h
  · exact congrArg some (List.cons.inj h).2

theorem query_eq_of_restChars (ha : ∀ c ∈ a.path.chars, isPathEnd c = false)
    (hb : ∀ c ∈ b.path.chars, isPathEnd c = false) (hf : a.fragment = none)
    (hg : b.fragment = none) (h : a.restChars = b.restChars) : a.query = b.query := by
  have hbare {url : Url} (hnone : url.fragment = none) :
      url.restChars = url.path.chars ++ queryChars url.query := by
    rw [restChars, hnone, Option.map_none, Option.getD_none, List.append_nil]
  rw [hbare hf, hbare hg] at h
  have hsplit := congrArg splitPath h
  rw [splitPath_append ha, splitPath_append hb] at hsplit
  exact queryChars_injective (Prod.mk.inj hsplit).2

theorem chars_segments_eq_intercalate {parts : List (List Char)} (h : parts ≠ []) :
    (UrlPath.segments parts).chars = '/' :: ['/'].intercalate parts := by
  change parts.flatMap ('/' :: ·) = '/' :: ['/'].intercalate parts
  induction parts with
  | nil => exact (h rfl).elim
  | cons part parts ih =>
    cases parts with
    | nil => simp
    | cons next parts =>
      rw [List.flatMap_cons, ih (List.cons_ne_nil _ _), List.intercalate_cons_cons]
      simp

end RuntimeFlag.Url
