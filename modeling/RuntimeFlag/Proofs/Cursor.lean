import RuntimeFlag.Proofs.Confinement
import RuntimeFlag.Proofs.Url.Front
/-!
# Names of pages in normal form

The control plane names a page by a path and a query. Where these are written in the only way in
which a URL writes them, the page is asked for by the name as it is, behind the site of the endpoint.
-/
namespace RuntimeFlag

namespace Path

/-! ## Segments of dots -/

/-- The ways to write a dot in a segment that is made of dots. -/
inductive IsSpelledDot : List Char → Prop
  | plain : IsSpelledDot ['.']
  | lower : IsSpelledDot ['%', '2', 'e']
  | upper : IsSpelledDot ['%', '2', 'E']

/-- A segment of one dot or two dots. -/
def IsDots (segment : List Char) : Prop :=
  IsSpelledDot segment ∨
    ∃ first second, IsSpelledDot first ∧ IsSpelledDot second ∧ segment = first ++ second

private theorem plainDots_eq_nil {segment : List Char} (h : plainDots segment = []) :
    segment = [] := by
  fun_cases plainDots segment with
  | case1 e rest he =>
    rw [plainDots, if_pos he] at h
    cases h
  | case2 e rest he =>
    rw [plainDots, if_neg he] at h
    cases h
  | case3 c rest hnone =>
    rw [plainDots.eq_2 _ _ hnone] at h
    cases h
  | case4 => rfl

private theorem exists_dot_of_plainDots {segment rest : List Char}
    (h : plainDots segment = '.' :: rest) :
    ∃ dot others, IsSpelledDot dot ∧ segment = dot ++ others ∧ plainDots others = rest := by
  fun_cases plainDots segment with
  | case1 e others he =>
    rw [plainDots, if_pos he] at h
    rcases Bool.or_eq_true _ _ ▸ he with he | he
    · obtain rfl := of_decide_eq_true he
      exact ⟨_, others, .lower, rfl, (List.cons.inj h).2⟩
    · obtain rfl := of_decide_eq_true he
      exact ⟨_, others, .upper, rfl, (List.cons.inj h).2⟩
  | case2 e others he =>
    rw [plainDots, if_neg he] at h
    cases h
  | case3 c others hnone =>
    rw [plainDots.eq_2 _ _ hnone] at h
    obtain ⟨rfl, hothers⟩ := List.cons.inj h
    exact ⟨_, others, .plain, rfl, hothers⟩
  | case4 => cases h

private theorem isDots_iff {segment : List Char} :
    IsDots segment ↔ isDot segment = true ∨ isDoubleDot segment = true := by
  constructor
  · rintro (h | ⟨first, second, hfirst, hsecond, rfl⟩)
    · left
      cases h <;> rfl
    · right
      cases hfirst <;> cases hsecond <;> rfl
  · rintro (h | h)
    · obtain ⟨dot, others, hdot, rfl, hothers⟩ := exists_dot_of_plainDots (of_decide_eq_true h)
      rw [plainDots_eq_nil hothers, List.append_nil]
      exact .inl hdot
    · obtain ⟨first, others, hfirst, rfl, hothers⟩ :=
        exists_dot_of_plainDots (of_decide_eq_true h)
      obtain ⟨second, rest, hsecond, rfl, hrest⟩ := exists_dot_of_plainDots hothers
      rw [plainDots_eq_nil hrest, List.append_nil]
      exact .inr ⟨first, second, hfirst, hsecond, rfl⟩

instance (segment : List Char) : Decidable (IsDots segment) := decidable_of_iff' _ isDots_iff

private theorem split_eq_splitOn {kind : SchemeKind} {cs : List Char} (h : '\\' ∉ cs) :
    split kind cs = cs.splitOn '/' := by
  induction cs with
  | nil => rfl
  | cons c cs ih =>
    rw [List.mem_cons, not_or] at h
    have hslash : isSlash kind c = (c == '/') := by
      simp [isSlash, Ne.symm h.1, beq_eq_decide]
    have hcons : (c :: cs).splitOn '/' =
        if c == '/' then [] :: cs.splitOn '/' else (cs.splitOn '/').modifyHead (List.cons c) :=
      List.splitOnP_cons_eq_if_modifyHead _ _
    rw [split, hslash, ih h.2, hcons]
    split
    · rfl
    · cases hsplit : cs.splitOn '/' with
      | nil => exact (List.splitOn_ne_nil _ _ hsplit).elim
      | cons first others => rfl

end Path

namespace Url

/-! ## Normal form -/

/-- The characters that stand for themselves in the path and in the query of a URL. -/
def isNormal (c : Char) : Bool := c.isAlphanum || "-_.~:=&+,%".toList.contains c

private theorem lt_of_isAlphanum {c : Char} (h : c.isAlphanum = true) : c.toNat < 0x80 := by
  have hlt (last : Char) (hc : c.val ≤ last.val) (hl : last.toNat < 0x80) : c.toNat < 0x80 :=
    Nat.lt_of_le_of_lt (UInt32.le_iff_toNat_le.mp hc) hl
  rcases (Bool.or_eq_true _ _).mp h with halpha | hdigit
  · rcases (Bool.or_eq_true _ _).mp halpha with hupper | hlower
    · exact hlt 'Z' (of_decide_eq_true hupper).2 (by decide)
    · exact hlt 'z' (of_decide_eq_true ((Bool.and_eq_true _ _).mp hlower).2) (by decide)
  · exact hlt '9' (of_decide_eq_true ((Bool.and_eq_true _ _).mp hdigit).2) (by decide)

private theorem isNormal_ascii {c : Char} (h : isNormal c = true) : c.toNat < 0x80 := by
  rw [isNormal, Bool.or_eq_true] at h
  rcases h with h | h
  · exact lt_of_isAlphanum h
  · have hmarks : ("-_.~:=&+,%".toList.all fun d => d.toNat < 0x80) = true := by decide
    simpa using List.all_eq_true.mp hmarks c (by simpa using h)

/-- A character in normal form is no mark of a URL and is never encoded. -/
theorem isNormal_spec {c : Char} (h : isNormal c = true) :
    0x20 < c.toNat ∧ isPathEnd c = false ∧ isAnySlash c = false ∧ Percent.inPath c = false ∧
      Percent.inSpecialQuery c = false := by
  have hall : ∀ n < 0x80, isNormal (Char.ofNat n) = true →
      0x20 < (Char.ofNat n).toNat ∧ isPathEnd (Char.ofNat n) = false ∧
        isAnySlash (Char.ofNat n) = false ∧ Percent.inPath (Char.ofNat n) = false ∧
        Percent.inSpecialQuery (Char.ofNat n) = false := by
    decide
  have hc := hall c.toNat (isNormal_ascii h)
  rw [Char.ofNat_toNat] at hc
  exact hc h

/-- A slash, a path that does not begin with another one, and maybe a query, in characters that stand
for themselves. No segment of the path is made of dots. -/
structure IsNormalName (name : String) (path : List Char) (query : Option (List Char)) : Prop where
  toList : name.toList = '/' :: (path ++ queryChars query)
  single : path.head? ≠ some '/'
  inPath : ∀ c ∈ path, c = '/' ∨ isNormal c = true
  inQuery : ∀ text ∈ query, ∀ c ∈ text, isNormal c = true
  steps : ∀ segment ∈ path.splitOn '/', ¬ Path.IsDots segment

namespace IsNormalName

variable {name : String} {path : List Char} {query : Option (List Char)}

private theorem visible (h : IsNormalName name path query) :
    ∀ c ∈ path ++ queryChars query, 0x20 < c.toNat := by
  intro c hc
  rcases List.mem_append.mp hc with hc | hc
  · rcases h.inPath c hc with rfl | hnormal
    · decide
    · exact (isNormal_spec hnormal).1
  · cases query with
    | none => cases hc
    | some text =>
      rcases List.mem_cons.mp hc with rfl | hc
      · decide
      · exact (isNormal_spec (h.inQuery text rfl c hc)).1

private theorem isAnySlash_head (h : IsNormalName name path query) :
    ∀ c ∈ (path ++ queryChars query).head?, isAnySlash c = false := by
  intro c hc
  cases path with
  | nil =>
    cases query with
    | none => cases hc
    | some text =>
      cases hc
      rfl
  | cons first path =>
    obtain rfl : first = c := Option.some.inj hc
    rcases h.inPath first List.mem_cons_self with rfl | hnormal
    · exact (h.single rfl).elim
    · exact (isNormal_spec hnormal).2.2.1

private theorem split_eq (h : IsNormalName name path query) (kind : SchemeKind) :
    Path.split kind path = path.splitOn '/' := by
  refine Path.split_eq_splitOn fun hm => ?_
  rcases h.inPath _ hm with heq | hnormal
  · cases heq
  · cases hnormal

private theorem stays (h : IsNormalName name path query) {segment : List Char}
    (hs : segment ∈ path.splitOn '/') : Path.Stays segment := by
  have hsteps := Path.isDots_iff.not.mp (h.steps segment hs)
  rw [not_or, Bool.not_eq_true, Bool.not_eq_true] at hsteps
  rw [← h.split_eq .other] at hs
  have hmem := (Path.mem_split hs).1.subset
  exact ⟨Path.counted_of_lt fun c hc => h.visible c (List.mem_append_left _ (hmem hc)),
    hsteps.1, hsteps.2⟩

private theorem encode_segment (h : IsNormalName name path query) {segment : List Char}
    (hs : segment ∈ path.splitOn '/') : Percent.encode Percent.inPath segment = segment := by
  rw [← h.split_eq .other] at hs
  obtain ⟨hsub, hslash⟩ := Path.mem_split hs
  refine Percent.encode_eq_self fun c hc => ?_
  rcases h.inPath c (hsub.subset hc) with rfl | hnormal
  · cases hslash _ hc
  · exact (isNormal_spec hnormal).2.2.2.1

/-- A name in normal form leads to the site of the base, and to its own path and query there. -/
theorem join_eq {base : Url} (hb : base.IsEndpoint) (h : IsNormalName name path query) :
    base.join name = .ok
      { base with path := .segments (path.splitOn '/'), query := query, fragment := none } := by
  obtain ⟨port, hk⟩ := kind_of_isWeb hb.web
  have hname : name = String.ofList ('/' :: (path ++ queryChars query)) := by
    rw [← h.toList, String.ofList_toList]
  have hend : ∀ c ∈ path, isPathEnd c = false := by
    intro c hc
    rcases h.inPath c hc with rfl | hnormal
    · rfl
    · exact (isNormal_spec hnormal).2.1
  have hstays : ∀ s ∈ Path.split (.special port) path, Path.Stays s := by
    rw [h.split_eq]
    exact fun s hs => h.stays hs
  have hquery : ∀ text ∈ query, ∀ c ∈ text, Percent.inSpecialQuery c = false :=
    fun text ht c hc => (isNormal_spec (h.inQuery text ht c hc)).2.2.2.2
  have hencode : (path.splitOn '/').map (Percent.encode Percent.inPath) = path.splitOn '/' :=
    (List.map_congr_left fun s hs => h.encode_segment hs).trans (List.map_id _)
  rw [hname, join_path hb hk h.visible h.isAnySlash_head, withPath_of_stays hk hend hstays hquery,
    h.split_eq, hencode]

private theorem text_eq {base : Url} {host : Host} (hh : base.host = some host)
    (h : IsNormalName name path query) :
    Url.text
        { base with path := .segments (path.splitOn '/'), query := query, fragment := none } =
      String.ofList (base.siteChars host) ++ name := by
  obtain ⟨url, hurl⟩ : ∃ url : Url, url =
      { base with path := .segments (path.splitOn '/'), query := query, fragment := none } :=
    ⟨_, rfl⟩
  have hsite : url.site = base.site := by rw [hurl]; rfl
  have hrest : url.restChars = name.toList := by
    rw [hurl, restChars, chars_segments_eq_intercalate (List.splitOn_ne_nil _ _),
      List.intercalate_splitOn, h.toList]
    simp
  rw [← hurl, Url.text, chars_of_host ((host_eq_of_site hsite).trans hh),
    siteChars_eq_of_site hsite, hrest, String.ofList_append, String.ofList_toList]

end IsNormalName

end Url

/-- A page whose name is in normal form is asked for at the site of the endpoint, by the name as it
is written, whatever else the endpoint and the query say. -/
theorem Query.request_next_verbatim {text name : String} {base : Url} {path : List Char}
    {tail : Option (List Char)} (hp : Url.parse text = .ok base) (hw : base.IsWeb)
    (h : Url.IsNormalName name path tail) (collection : Collection) (filter : Option Filter)
    (size : Option Nat) (space : Option String) :
    ∃ host url, base.host = some host ∧
      (Query.mk base collection filter size space).request (.next name) =
        .ok ⟨.fetch, url, none⟩ ∧
      url.text = String.ofList (base.siteChars host) ++ name := by
  have hb := isEndpoint_of_parse hp hw
  obtain ⟨host, hhost⟩ := hb.rooted.1
  exact ⟨host, _, hhost, request_next_of_join hb (h.join_eq hb) rfl, h.text_eq hhost⟩

/-- An escape, dots, an empty segment and a colon stay as they are; the path of the endpoint does not
matter, and its user stays. -/
theorem Query.request_next_verbatim_escaped :
    let base : Url :=
      { Client.loopback.base with
        username := "me".toList
        password := some "secret".toList
        query := some "q".toList
        fragment := some "f".toList }
    let name := "/v2/a%2f..b//x:y?page=2&q=diego:false"
    Url.parse "https://me:secret@[::1]:8443/x?q#f" = .ok base ∧ base.IsWeb ∧
    Url.IsNormalName name "v2/a%2f..b//x:y".toList (some "page=2&q=diego:false".toList) ∧
    ∃ url, (Query.mk base .spaces none (some 7) none).request (.next name) =
        .ok ⟨.fetch, url, none⟩ ∧
      url.text = "https://me:secret@[::1]:8443/v2/a%2f..b//x:y?page=2&q=diego:false" := by
  intro base name
  have hp : Url.parse "https://me:secret@[::1]:8443/x?q#f" = .ok base := by decide +kernel
  have hw : base.IsWeb := by decide +kernel
  have hpath : ("v2/a%2f..b//x:y".toList.all fun c => c = '/' || Url.isNormal c) = true := by
    decide
  have hquery : "page=2&q=diego:false".toList.all Url.isNormal = true := by decide
  have hnormal : Url.IsNormalName name "v2/a%2f..b//x:y".toList
      (some "page=2&q=diego:false".toList) := by
    refine ⟨by decide +kernel, by decide, fun c hc => ?_, ?_, by decide⟩
    · simpa using List.all_eq_true.mp hpath c hc
    · intro text htext
      obtain rfl := Option.some.inj htext
      exact List.all_eq_true.mp hquery
  obtain ⟨host, url, hhost, hrequest, htext⟩ :=
    request_next_verbatim hp hw hnormal .spaces none (some 7) none
  obtain rfl : host = .ipv6 [0, 0, 0, 0, 0, 0, 0, 1] := (Option.some.inj hhost).symm
  have hfront : String.ofList (base.siteChars (.ipv6 [0, 0, 0, 0, 0, 0, 0, 1])) =
      "https://me:secret@[::1]:8443" := by
    decide +kernel
  refine ⟨hp, hw, hnormal, url, hrequest, ?_⟩
  rw [htext, hfront]
  rfl

end RuntimeFlag
